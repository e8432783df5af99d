import XrdClPelican.Calls

/-!
The handler of an operation is called at most once, and exactly once after a failure or a
success that returns.

`Moves s s'` says what one call may do to the delivery of the result: the trace only grows,
the done flag is never cleared, and a response is added exactly when the handler, set until
then, is cleared, which also sets the done flag. Every call is a `Moves` by what `Calls` says
of it (`step_cases`, with `SuccessOutcome` for `Success`), and `Moves` is transitive, so every
run is one; an operation built with a handler therefore keeps `DeliveredAtMostOnce` along every
run.
-/

namespace XrdClPelican

def Effect.isResponse : Effect → Bool
  | .handleResponse _ => true
  | _ => false

/-- How many times a trace calls `HandleResponse`. -/
def responseCount (t : List Effect) : Nat := t.countP Effect.isResponse

@[simp] lemma responseCount_nil : responseCount [] = 0 := rfl

@[simp] lemma responseCount_append (t u : List Effect) :
    responseCount (t ++ u) = responseCount t + responseCount u := List.countP_append _ _ _

@[simp] lemma responseCount_cons (e : Effect) (t : List Effect) :
    responseCount (e :: t) = responseCount t + if e.isResponse then 1 else 0 := by
  simp [responseCount, List.countP_cons]

/-- `0` while the handler is set, `1` once it is cleared. -/
def Op.phase (s : Op) : Nat := if s.handler then 0 else 1

lemma Op.phase_le_one (s : Op) : s.phase ≤ 1 := by unfold Op.phase; split <;> omega

/-- What one call may do to the delivery of the result. -/
structure Moves (s s' : Op) : Prop where
  trace : s.trace <+: s'.trace
  done : s.done → s'.done
  phase : s.phase ≤ s'.phase
  count : responseCount s'.trace + s.phase = responseCount s.trace + s'.phase
  deliver : s.phase < s'.phase → s'.done

namespace Moves

variable {s s' s'' : Op}

lemma refl (s : Op) : Moves s s :=
  ⟨List.prefix_refl _, id, Nat.le_refl _, rfl, fun h => absurd h (Nat.lt_irrefl _)⟩

lemma trans (h₁ : Moves s s') (h₂ : Moves s' s'') : Moves s s'' where
  trace := h₁.trace.trans h₂.trace
  done := h₂.done ∘ h₁.done
  phase := Nat.le_trans h₁.phase h₂.phase
  count := by have := h₁.count; have := h₂.count; omega
  deliver h := by
    rcases Nat.lt_or_ge s.phase s'.phase with h' | h'
    · exact h₂.done (h₁.deliver h')
    · exact h₂.deliver (by omega)

lemma of_eq (ht : s'.trace = s.trace) (hh : s'.handler = s.handler) (hd : s'.done = s.done) :
    Moves s s' where
  trace := ht ▸ List.prefix_refl _
  done := by rw [hd]; exact id
  phase := by simp [Op.phase, hh]
  count := by simp [Op.phase, ht, hh]
  deliver := by simp [Op.phase, hh]

lemma emitAll (t : List Effect) (ht : responseCount t = 0) (s : Op) :
    Moves s { s with trace := s.trace ++ t } :=
  ⟨⟨t, rfl⟩, id, Nat.le_refl _, by simp [ht, Op.phase], fun h => absurd h (Nat.lt_irrefl _)⟩

lemma emit (e : Effect) (he : e.isResponse = false) (s : Op) : Moves s (s.emit e) :=
  emitAll [e] (by simp [he]) s

lemma setDone (s : Op) : Moves s s.setDone :=
  ⟨List.prefix_refl _, fun _ => rfl, Nat.le_refl _, rfl, fun _ => rfl⟩

lemma deliver_of_done (r : Response) (hd : s.done = true) : Moves s (s.deliver r) where
  trace := ⟨_, rfl⟩
  done _ := hd
  phase := s.phase_le_one
  count := by unfold Op.phase; split <;> simp_all [Effect.isResponse]
  deliver _ := hd

lemma setDone_deliver (r : Response) (s : Op) : Moves s (s.setDone.deliver r) :=
  (setDone s).trans (deliver_of_done r rfl)

lemma fail (c : UInt16) (n : UInt32) (m : String) (s : Op) : Moves s (s.fail c n m) := by
  obtain ⟨r, h⟩ := Op.fail_eq c n m s
  rw [h]; exact setDone_deliver r s

lemma readFail (c : UInt16) (n : UInt32) (m : String) (s : Op) :
    Moves s (CurlReadOp.fail c n m s) :=
  setDone_deliver _ s

lemma of_sameCore (h : s'.SameCore s) : Moves s s' := of_eq h.trace h.handler h.done

lemma of_keepsOrFails (h : s.KeepsOrFails s') : Moves s s' := by
  rcases h with h | ⟨x, c, n, m, hx, hr⟩
  · exact of_sameCore h
  · exact (of_sameCore hx).trans ((fail c n m x).trans (of_sameCore hr))

lemma of_touchesSocket (h : s.TouchesSocket s') : Moves s s' := by
  obtain ⟨fd, x, hx, hr⟩ := h
  have h₀ : Moves s { s with brokerReverseSocket := fd } := of_eq rfl rfl rfl
  rcases hr with rfl | ⟨e, rfl, he⟩
  · exact h₀.trans (of_sameCore hx)
  · exact (h₀.trans (of_sameCore hx)).trans (emit e (by cases e <;> first | rfl | cases he) x)

lemma of_writeOutcome {E : Env} {c : Chunk} (h : WriteOutcome E c s s') : Moves s s' := by
  cases h
  · exact refl s
  · exact readFail _ _ _ s
  · exact (emit (.memcpy _ _) rfl s).trans (of_eq rfl rfl rfl)
  · exact of_eq rfl rfl rfl

end Moves

/-! ### `Success` is a `Moves` -/

lemma Effect.isResponse_of_isRecord {e : Effect} (h : e.isRecord) : e.isResponse = false := by
  cases e <;> first | rfl | cases h

lemma Moves.of_records {s x : Op} (h : s.Records x) : Moves s x :=
  let ⟨t, ht, hr⟩ := h.trace
  have hc : responseCount t = 0 :=
    List.countP_eq_zero.mpr fun e he => by simp [Effect.isResponse_of_isRecord (hr e he)]
  (Moves.emitAll t hc s).trans (.of_eq ht h.handler h.done)

lemma Moves.of_successOutcome {s s' : Op} {r : Ret Unit} (h : SuccessOutcome s r)
    (hr : r.state = some s') : Moves s s' := by
  cases h with
  | crash => cases hr
  | throw e h => cases hr; exact (setDone s).trans (of_records h)
  | nullHandler h _ => cases hr; exact (setDone s).trans (of_records h)
  | deliver h r =>
    cases hr; exact ((setDone s).trans (of_records h)).trans (deliver_of_done r h.done)

end XrdClPelican

namespace XrdClPelican

/-! ### Runs -/

lemma moves_step (E : Env) (s s' : Op) (e : Event) (h : (s.step E e).state = some s') :
    Moves s s' := by
  cases step_cases E s s' e h with
  | keepsOrFails h => exact .of_keepsOrFails h
  | header line h =>
    have h₀ : Moves s (s.headerFrom E line) := .of_eq rfl rfl rfl
    exact h₀.trans (.of_keepsOrFails h)
  | redirect h =>
    have h₀ : Moves s (s.redirectFrom E) := .of_eq rfl rfl rfl
    exact h₀.trans (.of_keepsOrFails h)
  | virtualSuccess hx =>
    exact (Moves.of_sameCore hx).trans (.of_successOutcome (virtualSuccess_cases E _) rfl)
  | success now h => exact .of_successOutcome (success_cases E now s) h
  | write c h => exact .of_writeOutcome h
  | waitSocket fd => exact .of_touchesSocket (waitSocketCallback_touchesSocket s fd)
  | openSocket => exact .of_touchesSocket (openSocketCallback_touchesSocket s)

lemma moves_run (E : Env) (es : List Event) (s s' : Op) (h : s.run E es = some s') :
    Moves s s' := by
  induction es generalizing s with
  | nil => cases h; exact Moves.refl _
  | cons e es ih =>
    rw [Op.run_cons] at h
    cases hs : (s.step E e).state with
    | none => simp [hs] at h
    | some s₁ =>
      rw [hs] at h
      exact (moves_step E s s₁ e hs).trans (ih s₁ h)

/-- The handler has been called once exactly when it is cleared, and by then the operation is done.
-/
structure DeliveredAtMostOnce (s : Op) : Prop where
  count : responseCount s.trace = s.phase
  done : s.phase = 1 → s.done = true

lemma DeliveredAtMostOnce.moves {s s' : Op} (hi : DeliveredAtMostOnce s) (h : Moves s s') :
    DeliveredAtMostOnce s' where
  count := by have := h.count; have := hi.count; omega
  done h₁ := by
    rcases Nat.lt_or_ge s.phase s'.phase with hlt | hge
    · exact h.deliver hlt
    · exact h.done (hi.done (by have := s.phase_le_one; omega))

lemma deliveredAtMostOnce_of_constructed {E : Env} {s : Op} (h₀ : Constructed E s)
    (hh : s.handler = true) : DeliveredAtMostOnce s :=
  ⟨by simp [h₀.trace_nil, Op.phase, hh], by simp [Op.phase, hh]⟩

lemma success_handler (E : Env) (now : Nat) (s s' : Op) (h : s.success E now = .ok () s') :
    s'.handler = false := by
  have hc := success_cases E now s
  rw [h] at hc
  cases hc with
  | nullHandler _ hx => exact hx
  | deliver _ _ => rfl

def Event.isFailOrSuccess : Event → Bool
  | .fail .. | .success _ => true
  | _ => false

/-- **The handler is called at most once.** Along every run, `HandleResponse` is called at most
once, exactly when `m_handler` is null and the operation done; a `Fail` or a `Success` that returns
leaves it called once. -/
theorem handler_called_at_most_once (E : Env) (s₀ : Op) (h₀ : Constructed E s₀)
    (hh : s₀.handler = true) (es : List Event) (s : Op) (hs : s₀.run E es = some s) :
    responseCount s.trace ≤ 1 ∧
    (responseCount s.trace = 1 ↔ s.handler = false) ∧
    (responseCount s.trace = 1 → s.done = true) ∧
    (∀ fs s', s.run E fs = some s' → s.handler = false →
      s'.handler = false ∧ responseCount s'.trace = 1) ∧
    (∀ e s', s.step E e = .ok () s' → e.isFailOrSuccess →
      responseCount s'.trace = 1) := by
  have hi := (deliveredAtMostOnce_of_constructed h₀ hh).moves (moves_run E es s₀ s hs)
  have hcount := hi.count
  refine ⟨by simp only [hcount, s.phase_le_one], by simp [hcount, Op.phase], ?_, ?_, ?_⟩
  · intro h1; exact hi.done (hcount ▸ h1)
  · intro fs s' hrun hfalse
    have hm := moves_run E fs s s' hrun
    have h' : s'.handler = false := by
      have := hm.phase
      simp only [Op.phase, hfalse] at this
      split_ifs at this <;> simp_all
    exact ⟨h', by rw [(hi.moves hm).count]; simp [Op.phase, h']⟩
  · intro e s' hstep he
    have hi' := hi.moves (moves_step E s s' e (by rw [hstep]; rfl))
    have h' : s'.handler = false := by
      cases e <;> simp [Event.isFailOrSuccess] at he
      · simp only [Op.step, Ret.ok.injEq] at hstep; rw [← hstep.2]; simp
      · exact success_handler E _ s s' hstep
    rw [hi'.count]; simp [Op.phase, h']

/-- A read of 16 bytes answered 404: the status line, the blank line and a body of three bytes. -/
def notFoundRun : List Event :=
  [demoSetup, .header "HTTP/1.1 404 Not Found\r\n", .header "\r\n",
    .write ⟨[110, 111, 116], by decide⟩]

def notFoundAnswered : Op := (demoRead.run demoEnv notFoundRun).getD demoRead

theorem handler_called_at_most_once_notFound :
    demoRead.run demoEnv notFoundRun = some notFoundAnswered ∧
    responseCount notFoundAnswered.trace = 1 ∧ notFoundAnswered.handler = false ∧
    notFoundAnswered.done = true :=
  have h := handler_called_at_most_once demoEnv demoRead (.read _ _ _ _ _ _) rfl notFoundRun
    notFoundAnswered rfl
  have hh : notFoundAnswered.handler = false := rfl
  ⟨rfl, h.2.1.mpr hh, hh, h.2.2.1 (h.2.1.mpr hh)⟩

end XrdClPelican

namespace XrdClPelican

/-! ### After the delivery -/

/-- **Calls after the delivery still act.** The body of a 404 still reaches a read's buffer, and an
open failed by the driver still sets `LastURL` at `Success`. -/
theorem effects_after_delivery :
    ((demoRead.run demoEnv [demoSetup, .header "HTTP/1.1 404 Not Found\r\n", .header "\r\n",
        .write ⟨[110, 111, 116], by decide⟩]).map fun s => (s.written, s.trace)) =
      some (3, [.handleResponse ⟨.error 400 3011 "Not Found (read operation at offset 0)", none⟩,
        .memcpy 0 [110, 111, 116]]) ∧
    ((CurlOpenOp.new 2 demoEnv true "https://origin.example/f" ⟨0, 0⟩ false false false).run
        demoEnv [demoSetup, .fail 400 3011 "Not Found", .success 200]).map (·.trace) =
      some [.handleResponse ⟨.error 400 3011 "Not Found", none⟩,
        .setProperty "LastURL" "https://origin.example/f"] := by
  decide

end XrdClPelican
