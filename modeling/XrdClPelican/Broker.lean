import XrdClPelican.HandleReuse
import Mathlib.Data.String.Basic

/-!
The broker and its reverse connection. `Redirect` always drops the broker session and the
socket it holds, but sets the broker URL and the socket hooks only when the new response names
a broker: after a response with a hint and then one without, the operation has a broker URL
and hooks but no broker. A `StartBroker` then dereferences the missing broker, and an open that
succeeds records the stale broker URL.

The descriptor `WaitSocketCallback` obtains is owned by the operation until
`OpenSocketCallback` hands it to curl or the destructor closes it; `Redirect` and a second
`WaitSocketCallback` overwrite the field without closing it. A descriptor can so be lost, but
never given up twice: `OwnsSockets` counts, for each descriptor, the hand-offs, the closes and
the copy the operation holds against the times it was obtained, and every call keeps the count.
-/

namespace XrdClPelican

lemma redirect_broker (E : Env) (startErr : Option String) (s : Op)
    (hloc : s.headers.location ≠ "") :
    let s' := (CurlOperation.redirect E startErr s).1
    s'.broker = (if s.headers.broker = "" then none else some ⟨s.headers.broker⟩) ∧
    s'.brokerUrl = (if s.headers.broker = "" then s.brokerUrl else s.headers.broker) ∧
    s'.brokerReverseSocket = -1 := by
  have hl : s.headers.location.isEmpty = false :=
    Bool.eq_false_iff.mpr (mt (String.isEmpty_iff _).mp hloc)
  by_cases hb : s.headers.broker = ""
  · simp only [CurlOperation.redirect, hl, hb, show "".isEmpty = true from rfl, if_true,
      Bool.false_eq_true, if_false]
    simp
  · have hb' : s.headers.broker.isEmpty = false :=
      Bool.eq_false_iff.mpr (mt (String.isEmpty_iff _).mp hb)
    simp only [CurlOperation.redirect, hl, hb, hb', if_false, Bool.false_eq_true]
    cases startErr <;>
      simp [Op.setBrokerHooks, Op.setopt, Op.fail_eq_deliver, Op.deliver, Op.setDone]

/-! ### Two redirects -/

def plainRedirect : List Event :=
  [.header "HTTP/1.1 302 Found\r\n", .header "Location: https://cache.example/f\r\n",
    .header "\r\n", .redirect none]

def okResponse : List Event :=
  [.header "HTTP/1.1 200 OK\r\n", .header "Content-Length: 16\r\n", .header "\r\n"]

def demoOpen : Op :=
  CurlOpenOp.new 5 demoEnv true "https://origin.example/f" ⟨0, 0⟩ false false false

/-- **The broker URL outlives the broker.** After a redirect with a broker hint and one without,
`StartBroker` dereferences the missing broker, and an open records the first broker. -/
theorem broker_url_outlives_broker :
    ((demoRead.run demoEnv (demoSetup :: brokerRedirect ++ plainRedirect)).map fun s =>
        (s.brokerUrl, s.broker.isSome)) = some ("https://broker.example", false) ∧
    ((demoRead.run demoEnv (demoSetup :: brokerRedirect ++ plainRedirect)).bind (·.curl)).map
        CurlHandle.brokerHooks =
      some (some .openSocketCallback, some 1, some .sockOptCallback, some 1) ∧
    (demoRead.run demoEnv
        (demoSetup :: brokerRedirect ++ plainRedirect ++ [.startBroker none])).isNone = true ∧
    (demoOpen.run demoEnv
        (demoSetup :: brokerRedirect ++ plainRedirect ++ okResponse ++ [.success 0])).map
        (·.trace) =
      some [.setProperty "LastURL" "https://cache.example/f",
        .setProperty "BrokerURL" "https://broker.example", .setProperty "ContentLength" "16",
        .handleResponse ⟨.ok, some (.statInfo ⟨"nobody", 16, true, false, 0⟩)⟩] :=
  ⟨by decide, by decide, by decide, by decide⟩

/-! ### The reverse socket -/

/-- **A reverse socket is dropped.** A redirect forgets descriptor 7 without closing it, and neither
curl nor the destructor releases it. -/
theorem reverse_socket_dropped :
    ((demoRead.run demoEnv ([.setBrokerUrl "https://broker.example", demoSetup,
        .waitSocketCallback 7] ++ plainRedirect)).map fun s => (CurlOperation.destroy s).trace) =
      some [.socketObtained 7] ∧
    ((demoRead.run demoEnv [.setBrokerUrl "https://broker.example", demoSetup,
        .waitSocketCallback 7, .waitSocketCallback 8]).map fun s =>
        (CurlOperation.destroy s).trace) =
      some [.socketObtained 7, .socketObtained 8, .socketClosed 8] :=
  ⟨by decide, by decide⟩

/-! ### Ownership of the descriptor -/

/-- How many times a trace records that `WaitSocketCallback` obtained `fd`. -/
def obtainedCount (fd : Int) (t : List Effect) : Nat := t.count (.socketObtained fd)

/-- How many times a trace records that `fd` was handed to curl or closed. -/
def releasedCount (fd : Int) (t : List Effect) : Nat :=
  t.count (.socketHanded fd) + t.count (.socketClosed fd)

def Op.holds (s : Op) (fd : Int) : Nat := if s.brokerReverseSocket = fd ∧ fd ≠ -1 then 1 else 0

/-- No descriptor has been given up or kept more often than it was obtained. -/
def Op.OwnsSockets (s : Op) : Prop :=
  ∀ fd, releasedCount fd s.trace + s.holds fd ≤ obtainedCount fd s.trace

lemma isSocket_of_not_isQuiet {e : Effect} (he : e.isQuiet) : e.isSocket = false := by
  cases e <;> first | rfl | cases he

namespace Op.OwnsSockets

variable {s r : Op}

lemma silent (h : s.OwnsSockets) (t : List Effect) (ht : r.trace = s.trace ++ t)
    (hq : ∀ e ∈ t, e.isSocket = false)
    (hf : r.brokerReverseSocket = s.brokerReverseSocket ∨ r.brokerReverseSocket = -1) :
    r.OwnsSockets := by
  intro fd
  have h₀ := h fd
  have hc : ∀ e, e.isSocket → t.count e = 0 := fun e he =>
    List.count_eq_zero.mpr fun hm => Bool.false_ne_true ((hq e hm).symm.trans he)
  have hh : r.holds fd ≤ s.holds fd := by
    unfold Op.holds
    rcases hf with hf | hf
    · rw [hf]
    · rw [hf]; split_ifs <;> omega
  simp only [releasedCount, obtainedCount, ht, List.count_append, hc (.socketHanded fd) rfl,
    hc (.socketClosed fd) rfl, hc (.socketObtained fd) rfl] at h₀ ⊢
  omega

lemma quiet (h : s.OwnsSockets) (hq : s.Quiet r) : r.OwnsSockets := by
  obtain ⟨-, ⟨t, ht, hqt⟩, -, -, -, hf, -⟩ := hq
  exact h.silent t ht (fun e he => isSocket_of_not_isQuiet (hqt e he)) (.inl hf)

lemma drop (E : Env) (h : s.OwnsSockets) : (s.redirectFrom E).OwnsSockets :=
  h.silent [] (List.append_nil _).symm (by simp) (.inr rfl)

lemma writeOutcome {E : Env} {c : Chunk} (h : s.OwnsSockets) (hw : WriteOutcome E c s r) :
    r.OwnsSockets := by
  cases hw with
  | fail m => exact h.quiet (.readFail _ _ _ s)
  | copy => exact h.silent [_] rfl (by simp [Effect.isSocket]) (.inl rfl)
  | _ => exact h.silent [] (List.append_nil _).symm (by simp) (.inl rfl)

lemma waitSocketCallback (h : s.OwnsSockets) (fd : Int) :
    (CurlOperation.waitSocketCallback fd s).1.OwnsSockets := by
  unfold CurlOperation.waitSocketCallback
  split
  · exact h.silent [] (List.append_nil _).symm (by simp) (.inr rfl)
  · dsimp only
    split_ifs with hfd
    · exact h.silent [] (List.append_nil _).symm (by simp) (.inr hfd)
    · intro fd'
      have h₀ := h fd'
      simp only [Op.emit, Op.holds, releasedCount, obtainedCount, List.count_append,
        List.count_singleton', Effect.socketObtained.injEq, reduceCtorEq, if_false] at h₀ ⊢
      split_ifs at h₀ ⊢ <;> omega

lemma openSocketCallback (h : s.OwnsSockets) :
    (CurlOperation.openSocketCallback s).1.OwnsSockets := by
  unfold CurlOperation.openSocketCallback
  dsimp only
  split_ifs with hfd
  · exact h.silent [] (List.append_nil _).symm (by simp) (.inr rfl)
  · intro fd'
    have h₀ := h fd'
    simp only [Op.emit, Op.holds, releasedCount, obtainedCount, List.count_append,
      List.count_singleton', Effect.socketHanded.injEq, reduceCtorEq, if_false] at h₀ ⊢
    split_ifs at h₀ ⊢ <;> omega

end Op.OwnsSockets

lemma ownsSockets_step (E : Env) (s s' : Op) (e : Event) (h : (s.step E e).state = some s')
    (hs : s.OwnsSockets) : s'.OwnsSockets := by
  cases step_cases E s s' e h with
  | keepsOrFails h => exact hs.quiet (.of_keepsOrFails h)
  | header line h =>
    have h₀ : (s.headerFrom E line).OwnsSockets := hs
    exact h₀.quiet (.of_keepsOrFails h)
  | redirect h => exact (hs.drop E).quiet (.of_keepsOrFails h)
  | virtualSuccess hx => exact hs.quiet (virtualSuccess_quiet E s hx)
  | success now h => exact hs.quiet (success_quiet E now s _ h)
  | write c h => exact hs.writeOutcome h
  | waitSocket fd => exact hs.waitSocketCallback fd
  | openSocket => exact hs.openSocketCallback

lemma ownsSockets_run (E : Env) (es : List Event) (s s' : Op) (h : s.run E es = some s')
    (hs : s.OwnsSockets) : s'.OwnsSockets := by
  induction es generalizing s with
  | nil => cases h; exact hs
  | cons e es ih =>
    rw [Op.run_cons] at h
    cases h₁ : (s.step E e).state with
    | none => simp [h₁] at h
    | some s₁ =>
      rw [h₁] at h
      exact ih s₁ h (ownsSockets_step E s s₁ e h₁ hs)

lemma releasedCount_destroy (s : Op) (fd : Int) :
    releasedCount fd (CurlOperation.destroy s).trace = releasedCount fd s.trace + s.holds fd := by
  unfold CurlOperation.destroy Op.holds
  split_ifs with h₁ h₂ h₂
  · simp [releasedCount, Op.emit, List.count_append, h₂.1]; omega
  · simp only [releasedCount, Op.emit, List.count_append, List.count_singleton',
      Effect.socketClosed.injEq, reduceCtorEq, if_false]
    split_ifs <;> omega
  · exact absurd h₂.2 (h₂.1 ▸ h₁)
  · rfl

lemma obtainedCount_destroy (s : Op) (fd : Int) :
    obtainedCount fd (CurlOperation.destroy s).trace = obtainedCount fd s.trace := by
  unfold CurlOperation.destroy
  split_ifs <;> simp [obtainedCount, Op.emit, List.count_append]

/-- **A descriptor is given up at most once per time it was obtained.** Along every run and at
destruction, no descriptor is handed to curl or closed more often than `WaitSocketCallback` obtained
it. -/
theorem sockets_released_at_most_once (E : Env) (s₀ : Op) (h₀ : Constructed E s₀)
    (es : List Event) (s : Op) (hs : s₀.run E es = some s) (fd : Int) :
    releasedCount fd s.trace + s.holds fd ≤ obtainedCount fd s.trace ∧
    releasedCount fd (CurlOperation.destroy s).trace ≤
      obtainedCount fd (CurlOperation.destroy s).trace := by
  have hi : s₀.OwnsSockets := fun fd => by
    simp [releasedCount, obtainedCount, Op.holds, h₀.trace_nil, h₀.socket_eq]
    omega
  have h := ownsSockets_run E es s₀ s hs hi fd
  exact ⟨h, by rw [releasedCount_destroy, obtainedCount_destroy]; exact h⟩

def readHandedSeven : Op :=
  (demoRead.run demoEnv [.setBrokerUrl "https://broker.example", demoSetup,
    .waitSocketCallback 7, .openSocket]).getD demoRead

theorem sockets_released_at_most_once_seven :
    Constructed demoEnv demoRead ∧
    demoRead.run demoEnv [.setBrokerUrl "https://broker.example", demoSetup,
      .waitSocketCallback 7, .openSocket] = some readHandedSeven ∧
    releasedCount 7 readHandedSeven.trace + readHandedSeven.holds 7 ≤
      obtainedCount 7 readHandedSeven.trace ∧
    releasedCount 7 (CurlOperation.destroy readHandedSeven).trace ≤
      obtainedCount 7 (CurlOperation.destroy readHandedSeven).trace :=
  ⟨.read _ _ _ _ _ _, rfl, sockets_released_at_most_once demoEnv demoRead (.read _ _ _ _ _ _)
    [.setBrokerUrl "https://broker.example", demoSetup, .waitSocketCallback 7, .openSocket]
    readHandedSeven rfl 7⟩

end XrdClPelican