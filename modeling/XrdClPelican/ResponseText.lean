import XrdClPelican.StatOutcome
import XrdClPelican.RedirectBody

/-!
The text a listing or a `PROPFIND` keeps. `CurlListdirOp::WriteCallback` appends every chunk to
`m_response` while the text stays within 10,000,000 bytes, and `CurlStatOp::WriteCallback` does
the same within 1,000,000 bytes once `m_is_propfind` is set, which no call clears
(`KeepsFlags`). No other call touches `m_response`: not `Redirect`, not a new `Setup`. So along
every run the text is the fold `bufferedAfter` of the chunks curl hands over, the bodies of
redirect responses included: this is the text `GetStatInfo` parses and the listing delivers. A
chunk that would take the text past the cap is refused (the callback returns `0`), but nothing
marks the operation, and a later, shorter chunk is still appended.
-/

namespace XrdClPelican

open Op

/-- An operation that keeps the body it receives: a listing, or a `PROPFIND`. -/
def Op.buffers (s : Op) : Bool := s.kind == .listdirOp || (s.kind.isStat && s.isPropfind)

/-- What one call does to the text kept within `cap` bytes. -/
def bufferStep (cap : Nat) (r : List UInt8) : Event → List UInt8
  | .write c => if c.bytes.length + r.length ≤ cap then r ++ c.bytes else r
  | _ => r

def bufferedAfter (cap : Nat) (r : List UInt8) (es : List Event) : List UInt8 :=
  es.foldl (bufferStep cap) r

lemma bufferStep_length {cap : Nat} {r : List UInt8} (hr : r.length ≤ cap) (e : Event) :
    (bufferStep cap r e).length ≤ cap := by
  cases e
  case write c =>
    simp only [bufferStep]
    split_ifs with h
    · rw [List.length_append]; omega
    · exact hr
  all_goals exact hr

/-! ### One call -/

section Calls

variable (E : Env) (s : Op)

lemma response_step (e : Event) (he : ∀ c, e ≠ .write c) (s' : Op)
    (h : (s.step E e).state = some s') : s'.response = s.response := by
  cases step_cases E s s' e h with
  | keepsOrFails h => exact (Quiet.of_keepsOrFails h).response
  | header _ h | redirect h => exact (Quiet.of_keepsOrFails h).response
  | virtualSuccess hx => exact (virtualSuccess_quiet E s hx).response
  | success now h => exact (success_quiet E now s _ h).response
  | write c _ => exact absurd rfl (he c)
  | waitSocket fd => exact (waitSocketCallback_touchesSocket s fd).kind_response.2
  | openSocket => exact (openSocketCallback_touchesSocket s).kind_response.2

lemma buffers_step (hb : s.buffers) (e : Event) (s' : Op) (h : (s.step E e).state = some s') :
    s'.buffers := by
  have hk := step_kind E s s' e h
  have hf := (keepsFlags_step E s e s' h).mono
  simp only [Op.buffers, Bool.or_eq_true, beq_iff_eq, Bool.and_eq_true, hk] at hb ⊢
  exact hb.imp id fun h => ⟨h.1, hf h.2⟩

lemma writeCallback_response (hb : s.buffers) (c : Chunk) :
    (s.writeCallback E c).1.response =
      if c.size + s.response.length.toUInt64 ≤ s.kind.responseCap then s.response ++ c.bytes
      else s.response := by
  simp only [Op.buffers, Bool.or_eq_true, beq_iff_eq, Bool.and_eq_true] at hb
  cases hk : s.kind <;> simp only [hk, Kind.isStat, true_and, reduceCtorEq, false_or,
    Bool.false_eq_true, false_and, and_false, or_false] at hb <;>
    simp only [Op.writeCallback, hk, CurlStatOp.writeCallback, CurlListdirOp.writeCallback, hb,
      if_true, Kind.responseCap]
  all_goals split_ifs <;> first | rfl | (simp only [u64_lt_iff, u64_le_iff] at *; omega)

lemma responseCap_le_iff (k : Kind) (c : Chunk) (r : List UInt8)
    (hc : c.size.toNat < 2 ^ 64 - 10000000) (hr : r.length ≤ k.responseCap.toNat) :
    c.size + r.length.toUInt64 ≤ k.responseCap ↔
      c.bytes.length + r.length ≤ k.responseCap.toNat := by
  have hcap : k.responseCap.toNat ≤ 10000000 := by cases k <;> decide
  rw [Chunk.toNat_size] at hc
  have hl : r.length.toUInt64.toNat = r.length := Nat.mod_eq_of_lt (by omega)
  rw [u64_le_iff, u64_toNat_add, hl, Chunk.toNat_size,
    Nat.mod_eq_of_lt (by unfold UInt64.size; omega)]

lemma buffered_step (hb : s.buffers) (hr : s.response.length ≤ s.kind.responseCap.toNat)
    (e : Event) (he : ∀ c, e = .write c → c.size.toNat < 2 ^ 64 - 10000000) (s' : Op)
    (h : (s.step E e).state = some s') :
    s'.response = bufferStep s.kind.responseCap.toNat s.response e := by
  by_cases hw : ∃ c, e = .write c
  · obtain ⟨c, rfl⟩ := hw
    simp only [Op.step, Ret.state_ok, Option.some.injEq] at h
    rw [← h, writeCallback_response E s hb, bufferStep]
    simp only [responseCap_le_iff s.kind c s.response (he c rfl) hr]
  · push_neg at hw
    rw [response_step E s e hw s' h]
    cases e <;> first | rfl | exact absurd rfl (hw _)

end Calls

/-! ### Along a run -/

lemma buffered_run (E : Env) (s : Op) (hb : s.buffers)
    (hr : s.response.length ≤ s.kind.responseCap.toNat) (es : List Event)
    (hes : ∀ c, Event.write c ∈ es → c.size.toNat < 2 ^ 64 - 10000000) (s' : Op)
    (h : s.run E es = some s') :
    s'.buffers ∧ s'.response = bufferedAfter s.kind.responseCap.toNat s.response es := by
  induction es generalizing s with
  | nil => cases h; exact ⟨hb, rfl⟩
  | cons e es ih =>
    rw [run_cons] at h
    rcases hs : (s.step E e).state with _ | s₁ <;> rw [hs] at h
    · cases h
    · have hk := step_kind E s s₁ e hs
      have h₁ :=
        buffered_step E s hb hr e (fun c hc => hes c (hc ▸ List.mem_cons_self _ _)) s₁ hs
      have ih := ih s₁ (buffers_step E s hb e s₁ hs)
        (by rw [h₁, hk]; exact bufferStep_length hr e)
        (fun c hc => hes c (List.mem_cons_of_mem _ hc)) h
      rw [hk, h₁] at ih
      exact ih

/-- **A listing or a `PROPFIND` keeps every body.** Its text is `bufferedAfter` of the run: every
chunk in order, redirect bodies included, each one past the cap dropped. -/
theorem keeps_every_body (E : Env) (s : Op) (hb : s.buffers)
    (hr : s.response.length ≤ s.kind.responseCap.toNat) (es : List Event)
    (hes : ∀ c, Event.write c ∈ es → c.size.toNat < 2 ^ 64 - 10000000) (s' : Op)
    (h : s.run E es = some s') :
    s'.buffers ∧ s'.response = bufferedAfter s.kind.responseCap.toNat s.response es :=
  buffered_run E s hb hr es hes s' h

def demoListdir : Op := CurlListdirOp.new 4 demoEnv true "https://origin.example/d" false ⟨0, 0⟩

def listingBothBodies : Op := (demoListdir.run demoEnv bothBodies).getD demoListdir

theorem keeps_every_body_listing :
    demoListdir.buffers ∧ demoListdir.response.length ≤ demoListdir.kind.responseCap.toNat ∧
    (∀ c, Event.write c ∈ bothBodies → c.size.toNat < 2 ^ 64 - 10000000) ∧
    demoListdir.run demoEnv bothBodies = some listingBothBodies ∧
    listingBothBodies.buffers ∧
    listingBothBodies.response =
      bufferedAfter demoListdir.kind.responseCap.toNat demoListdir.response bothBodies := by
  have hes : ∀ c, Event.write c ∈ bothBodies → c.size.toNat < 2 ^ 64 - 10000000 :=
    fun c hc => by
      have := bothBodies_chunks c hc
      rw [Chunk.toNat_size]
      omega
  exact ⟨rfl, by decide, hes, rfl,
    keeps_every_body demoEnv demoListdir rfl (by decide) bothBodies hes listingBothBodies rfl⟩

example : listingBothBodies.response = ascii "<a>0123456789abc" := by decide

end XrdClPelican
