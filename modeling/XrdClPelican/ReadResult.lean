import XrdClPelican.ReadBuffer
import XrdClPelican.RedirectBody
import Mathlib.Data.List.GetD

/-!
What a read hands back. `CurlReadOp::Write` copies each chunk it accepts to
`m_buffer + m_written` and adds its length to `m_written`, and no other call copies or moves
`m_written`: not `Redirect`, whose response body is kept, and not a new `Setup`. So, as long as
no chunk is long enough for the `uint64_t` count to wrap, the memory at `m_buffer` is at every
point the caller's with the bytes copied so far laid end to end at its start, and `m_written`
counts them (`HoldsBody`).
`Success`, of a read or of a page read, reports `m_written` at `m_op.first`: the `ChunkInfo` or
`PageInfo` the caller receives describes exactly the bytes its buffer holds.
-/

namespace XrdClPelican

/-! ### The bytes a trace copies -/

/-- The bytes of the copies of a trace, in order. -/
def copiedBytes : List Effect → List UInt8
  | [] => []
  | .memcpy _ bytes :: t => bytes ++ copiedBytes t
  | _ :: t => copiedBytes t

@[simp] lemma copiedBytes_append (t u : List Effect) :
    copiedBytes (t ++ u) = copiedBytes t ++ copiedBytes u := by
  induction t with
  | nil => rfl
  | cons e t ih => cases e <;> simp [copiedBytes, ih]

lemma copiedBytes_of_copiesNothing (t : List Effect) (ht : ∀ e ∈ t, e.copiesNothing) :
    copiedBytes t = [] := by
  induction t with
  | nil => rfl
  | cons e t ih =>
    have he := ht e (List.mem_cons_self _ _)
    have ih := ih fun e h => ht e (List.mem_cons_of_mem _ h)
    cases e <;> simp_all [copiedBytes, Effect.copiesNothing]

lemma applyCopies_of_copiesNothing (t : List Effect) (ht : ∀ e ∈ t, e.copiesNothing)
    (m : Nat → UInt8) : applyCopies t m = m := by
  induction t generalizing m with
  | nil => rfl
  | cons e t ih =>
    have he := ht e (List.mem_cons_self _ _)
    have ih := ih fun e h => ht e (List.mem_cons_of_mem _ h)
    cases e <;> simp only [applyCopies] <;> try exact ih m
    simp only [Effect.copiesNothing, List.isEmpty_iff] at he
    subst he
    rw [ih]
    funext i
    rw [List.length_nil, Nat.add_zero, if_neg (by omega)]

/-- The memory `m` with `body` laid at its start. -/
def overlay (body : List UInt8) (m : Nat → UInt8) (i : Nat) : UInt8 :=
  if i < body.length then body.getD i 0 else m i

lemma applyCopies_overlay (body bytes : List UInt8) (m : Nat → UInt8) :
    applyCopies [.memcpy body.length bytes] (overlay body m) = overlay (body ++ bytes) m := by
  funext i
  simp only [applyCopies, overlay, List.length_append]
  by_cases h₁ : i < body.length
  · rw [if_neg (by omega), if_pos h₁, if_pos (by omega), List.getD_append _ _ _ _ h₁]
  · by_cases h₂ : i < body.length + bytes.length
    · rw [if_pos ⟨by omega, h₂⟩, if_pos h₂, List.getD_append_right _ _ _ _ (by omega)]
    · rw [if_neg (by omega), if_neg h₁, if_neg h₂]

/-! ### Along a run -/

/-- What a read keeps along a run while no chunk can wrap its count. -/
structure Op.HoldsBody (s : Op) : Prop where
  /-- `m_written` counts the bytes copied so far, -/
  written : s.written.toNat = (copiedBytes s.trace).length
  /-- and the copies lay them end to end at the start of the buffer. -/
  buffer : ∀ m, applyCopies s.trace m = overlay (copiedBytes s.trace) m

namespace Op.HoldsBody

variable {s r : Op}

lemma extend (h : s.HoldsBody) (hw : r.written = s.written) (t : List Effect)
    (ht : r.trace = s.trace ++ t) (hq : ∀ e ∈ t, e.copiesNothing) : r.HoldsBody where
  written := by
    rw [hw, ht, copiedBytes_append, copiedBytes_of_copiesNothing t hq, List.append_nil]
    exact h.written
  buffer m := by
    rw [ht, applyCopies_append, h.buffer, applyCopies_of_copiesNothing t hq, copiedBytes_append,
      copiedBytes_of_copiesNothing t hq, List.append_nil]

lemma quiet (h : s.HoldsBody) (hq : s.Quiet r) : r.HoldsBody :=
  let ⟨t, ht, hqt⟩ := hq.trace
  h.extend hq.written t ht fun e he => copiesNothing_of_isQuiet (hqt e he)

lemma keepsOrFails_from {x : Op} (h : s.HoldsBody) (hk : x.KeepsOrFails r)
    (hw : x.written = s.written) (ht : x.trace = s.trace) : r.HoldsBody :=
  (h.extend hw [] (by rw [ht, List.append_nil]) (by simp)).quiet (.of_keepsOrFails hk)

lemma touchesSocket (h : s.HoldsBody) (hr : s.TouchesSocket r) : r.HoldsBody := by
  obtain ⟨fd, x, hx, rfl | ⟨e, rfl, he⟩⟩ := hr
  · exact h.extend hx.written [] (by rw [hx.trace, List.append_nil]) (by simp)
  · exact h.extend hx.written [e] (by rw [Op.emit_trace, hx.trace])
      (by simpa using copiesNothing_of_isSocket he)

lemma writeOutcome {E : Env} {c : Chunk} (h : s.HoldsBody) (hw : WriteOutcome E c s r)
    (hc : s.written.toNat + c.size.toNat < 2 ^ 64) : r.HoldsBody := by
  cases hw with
  | keep => exact h
  | fail m => exact h.quiet (.readFail _ _ _ s)
  | append _ => exact h.extend rfl [] (List.append_nil _).symm (by simp)
  | copy _ =>
    have hb : copiedBytes (s.trace ++ [.memcpy s.written.toNat c.bytes]) =
        copiedBytes s.trace ++ c.bytes := by simp [copiedBytes]
    constructor
    · show (s.written + c.size).toNat = _
      rw [Op.emit_trace, hb, u64_toNat_add, Nat.mod_eq_of_lt (by unfold UInt64.size; omega),
        h.written, Chunk.toNat_size, List.length_append]
    · intro m
      show applyCopies (s.trace ++ [.memcpy s.written.toNat c.bytes]) m =
        overlay (copiedBytes (s.trace ++ [.memcpy s.written.toNat c.bytes])) m
      rw [hb, applyCopies_append, h.buffer, h.written, applyCopies_overlay]

end Op.HoldsBody

section Runs

variable (E : Env)

lemma holdsBody_step (s s' : Op) (e : Event) (h : (s.step E e).state = some s')
    (he : ∀ c, e = .write c → c.size.toNat < 2 ^ 64 - s.op.2.toNat) (hw : s.written ≤ s.op.2)
    (hs : s.HoldsBody) : s'.HoldsBody := by
  cases step_cases E s s' e h with
  | keepsOrFails h => exact hs.quiet (.of_keepsOrFails h)
  | header _ h | redirect h => exact hs.keepsOrFails_from h rfl rfl
  | virtualSuccess hx => exact hs.quiet (virtualSuccess_quiet E s hx)
  | success now h => exact hs.quiet (success_quiet E now s _ h)
  | write c h =>
    have hc := he c rfl
    rw [u64_le_iff] at hw
    exact hs.writeOutcome h (by omega)
  | waitSocket fd => exact hs.touchesSocket (waitSocketCallback_touchesSocket s fd)
  | openSocket => exact hs.touchesSocket (openSocketCallback_touchesSocket s)

lemma holdsBody_run (es : List Event) (s s' : Op) (h : s.run E es = some s')
    (hes : ∀ c, Event.write c ∈ es → c.size.toNat < 2 ^ 64 - s.op.2.toNat)
    (hw : s.written ≤ s.op.2) (hs : s.HoldsBody) : s'.HoldsBody := by
  induction es generalizing s with
  | nil => cases h; exact hs
  | cons e es ih =>
    rw [Op.run_cons] at h
    cases h₁ : (s.step E e).state with
    | none => simp [h₁] at h
    | some s₁ =>
      rw [h₁] at h
      obtain ⟨ho₁, hw₁⟩ := within_request_step E s s₁ e h₁ hw
      refine ih s₁ h (fun c hc => ?_) hw₁
        (holdsBody_step E s s₁ e h₁ (fun c hc => hes c (hc ▸ List.mem_cons_self _ _)) hw hs)
      rw [ho₁]; exact hes c (List.mem_cons_of_mem _ hc)

end Runs

/-! ### What `Success` reports -/

/-- The offset and length an answer to a read describes. -/
def AnyObject.extent : AnyObject → Option (UInt64 × UInt64)
  | .chunkInfo offset length | .pageInfo offset length _ => some (offset, length)
  | _ => none

lemma readSuccess_response (E : Env) (now : Nat) (s : Op) (hk : s.kind.isRead = true)
    (hh : s.handler = true) :
    ∃ s' r, s.success E now = .ok () s' ∧ s'.trace = s.trace ++ [.handleResponse r] ∧
      r.status = .ok ∧ r.obj.bind AnyObject.extent = some (s.op.1, s.written) := by
  cases hkind : s.kind <;> simp only [hkind, Kind.isRead, Bool.false_eq_true] at hk
  · refine ⟨_, ⟨.ok, some (.chunkInfo s.op.1 s.written)⟩,
      by simp only [Op.success, hkind]; rfl, ?_, rfl, rfl⟩
    simp [CurlReadOp.success, hh]
  · obtain ⟨cks, hc⟩ : ∃ cks, CurlPgReadOp.success E s =
        s.setDone.deliver ⟨.ok, some (.pageInfo s.op.1 s.written cks)⟩ :=
      ⟨_, by simp only [CurlPgReadOp.success, Op.setDone_handler, hh, Bool.not_true,
        Bool.false_eq_true, if_false]; rfl⟩
    refine ⟨_, ⟨.ok, some (.pageInfo s.op.1 s.written cks)⟩,
      by simp only [Op.success, hkind, hc]; rfl, ?_, rfl, rfl⟩
    simp [hh]

/-- **A read answers with what its buffer holds.** `Success` hands over the request's offset and a
length `n <= m_op.second`, and the buffer holds the `n` bytes copied, end to end. -/
theorem read_answers_with_buffer (E : Env) (s₀ : Op) (h₀ : Constructed E s₀)
    (hk : s₀.kind.isRead = true) (es : List Event)
    (hes : ∀ c, Event.write c ∈ es → c.size.toNat < 2 ^ 64 - s₀.op.2.toNat) (s : Op)
    (hs : s₀.run E es = some s) (hh : s.handler = true) (now : Nat) :
    ∃ s' r n, s.success E now = .ok () s' ∧ s'.trace = s.trace ++ [.handleResponse r] ∧
      r.status = .ok ∧ r.obj.bind AnyObject.extent = some (s₀.op.1, n) ∧ n ≤ s₀.op.2 ∧
      n.toNat = (copiedBytes s'.trace).length ∧
      s'.buffer = overlay (copiedBytes s'.trace) s'.callerBuffer := by
  have hw₀ : s₀.written ≤ s₀.op.2 := by
    rw [h₀.written_eq_zero, u64_le_iff]; exact Nat.zero_le _
  obtain ⟨ho, hw⟩ := within_request_run E es s₀ s hs hw₀
  have hb := holdsBody_run E es s₀ s hs hes hw₀
    ⟨by rw [h₀.written_eq_zero, h₀.trace_nil]; rfl,
      fun m => by rw [h₀.trace_nil]; funext i; rfl⟩
  obtain ⟨s', r, h₁, ht, hst, hx⟩ :=
    readSuccess_response E now s (by rw [kind_run E es s₀ s hs]; exact hk) hh
  have hq := success_quiet E now s s' (by rw [h₁]; rfl)
  have hb' := hb.quiet hq
  refine ⟨s', r, s.written, h₁, ht, hst, by rw [hx, ho], ho ▸ hw, ?_, hb'.buffer _⟩
  rw [← hq.written]; exact hb'.written

def readBothBodies : Op := (demoRead.run demoEnv bothBodies).getD demoRead

theorem read_answers_with_buffer_redirected :
    Constructed demoEnv demoRead ∧ demoRead.kind.isRead = true ∧
    (∀ c, Event.write c ∈ bothBodies → c.size.toNat < 2 ^ 64 - demoRead.op.2.toNat) ∧
    demoRead.run demoEnv bothBodies = some readBothBodies ∧ readBothBodies.handler = true ∧
    ∃ s' r n, readBothBodies.success demoEnv 0 = .ok () s' ∧
      s'.trace = readBothBodies.trace ++ [.handleResponse r] ∧
      r.status = .ok ∧ r.obj.bind AnyObject.extent = some (demoRead.op.1, n) ∧
      n ≤ demoRead.op.2 ∧ n.toNat = (copiedBytes s'.trace).length ∧
      s'.buffer = overlay (copiedBytes s'.trace) s'.callerBuffer := by
  have hes : ∀ c, Event.write c ∈ bothBodies → c.size.toNat < 2 ^ 64 - demoRead.op.2.toNat :=
    fun c hc => by
      have := bothBodies_chunks c hc
      show c.bytes.length < 2 ^ 64 - 16
      omega
  exact ⟨.read .., rfl, hes, rfl, rfl,
    read_answers_with_buffer demoEnv demoRead (.read ..) rfl bothBodies hes readBothBodies rfl rfl
      0⟩

example : copiedBytes readBothBodies.trace = ascii "<a>0123456789abc" := by decide

end XrdClPelican
