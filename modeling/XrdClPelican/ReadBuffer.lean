import XrdClPelican.Calls
import Mathlib.Tactic.Lemma
import Mathlib.Tactic.NormNum

/-!
What `CurlReadOp::Write` does to the caller's buffer.

A chunk is copied exactly when `accepts` holds: no multipart body, the right offset for a
first chunk, and `m_written + length <= m_op.second` in `uint64_t`. A rejected chunk changes
neither `m_written` nor the buffer, and a copied chunk leaves `m_written <= m_op.second`. But the
sum can wrap past `2^64`: the guard then passes while `memcpy` runs far past the end of the
buffer, and `m_written` wraps back below the length.

A read of length `0` succeeds inside `Setup`, before any range header is built; the guard then
rejects every chunk with a byte, so the caller's buffer is never written.
-/

namespace XrdClPelican

lemma u64_lt_iff (a b : UInt64) : a < b ↔ a.toNat < b.toNat := Iff.rfl

lemma u64_le_iff (a b : UInt64) : a ≤ b ↔ a.toNat ≤ b.toNat := Iff.rfl

lemma u64_eq_iff (a b : UInt64) : a = b ↔ a.toNat = b.toNat :=
  ⟨congrArg _, fun h => UInt64.eq_of_val_eq (Fin.ext h)⟩

lemma u64_toNat_add (a b : UInt64) : (a + b).toNat = (a.toNat + b.toNat) % UInt64.size := rfl

variable (E : Env) (c : Chunk) (s : Op)

lemma write_of_accepts (h : s.accepts c) :
    CurlReadOp.write E c s =
      ({ s.emit (.memcpy s.written.toNat c.bytes) with written := s.written + c.size },
        c.size) := by
  obtain ⟨hm, ho, hl⟩ := h
  have hl' : ¬ s.written + c.size > s.op.2 := by simpa [u64_lt_iff, u64_le_iff] using hl
  unfold CurlReadOp.write
  rw [if_neg (by simp [hm]), if_neg fun ⟨h0, hne⟩ => hne (ho h0), if_neg hl']

lemma write_of_not_accepts (h : ¬ s.accepts c) :
    ∃ msg, CurlReadOp.write E c s =
      (CurlReadOp.fail E.errErrorResponse E.kXR_ServerError msg s, 0) := by
  unfold CurlReadOp.write
  split_ifs with h₁ h₂ h₃
  · exact ⟨_, rfl⟩
  · exact ⟨_, rfl⟩
  · exact ⟨_, rfl⟩
  · exact absurd ⟨by simpa using h₁, fun hw => by simpa [hw] using h₂,
      by simpa [u64_lt_iff, u64_le_iff] using h₃⟩ h

lemma applyCopies_of_not_memcpy (t : List Effect) (m : Nat → UInt8)
    (ht : ∀ e ∈ t, ∀ d b, e ≠ .memcpy d b) : applyCopies t m = m := by
  induction t generalizing m with
  | nil => rfl
  | cons e t ih =>
    cases e <;> simp only [applyCopies]
    all_goals first
      | exact ih m fun e he => ht e (List.mem_cons_of_mem _ he)
      | exact absurd rfl (ht _ (List.mem_cons_self _ _) _ _)

lemma applyCopies_append (t u : List Effect) (m : Nat → UInt8) :
    applyCopies (t ++ u) m = applyCopies u (applyCopies t m) := by
  induction t generalizing m with
  | nil => rfl
  | cons e t ih => cases e <;> simp only [List.cons_append, applyCopies] <;> exact ih _

lemma write_rejects (h : ¬ s.accepts c) :
    (CurlReadOp.write E c s).2 = 0 ∧ (CurlReadOp.write E c s).1.written = s.written ∧
      (CurlReadOp.write E c s).1.buffer = s.buffer := by
  obtain ⟨msg, hw⟩ := write_of_not_accepts E c s h
  rw [hw]
  refine ⟨rfl, rfl, ?_⟩
  unfold Op.buffer
  rw [CurlReadOp.fail, Op.deliver_trace, applyCopies_append,
    applyCopies_of_not_memcpy _ _ (by split <;> simp)]
  rfl

lemma written_le_after_write (hw : s.written ≤ s.op.2) :
    (CurlReadOp.write E c s).1.written ≤ (CurlReadOp.write E c s).1.op.2 := by
  by_cases h : s.accepts c
  · rw [write_of_accepts E c s h]; exact h.2.2
  · rw [(write_rejects E c s h).2.1]
    obtain ⟨msg, hw'⟩ := write_of_not_accepts E c s h
    rw [hw']; exact hw

lemma copy_at_offset (h0 : s.written = 0) (hc : (CurlReadOp.write E c s).2 ≠ 0) :
    s.headers.offset = s.op.1 := by
  by_cases h : s.accepts c
  · exact h.2.1 h0
  · exact absurd (write_rejects E c s h).1 hc

lemma copy_within_buffer (h : s.accepts c)
    (hnw : s.written.toNat + c.bytes.length < UInt64.size) :
    s.written.toNat + c.bytes.length ≤ s.op.2.toNat := by
  have := h.2.2
  rw [u64_le_iff, u64_toNat_add, Chunk.toNat_size, Nat.mod_eq_of_lt hnw] at this
  exact this

def zeros (n : Nat) (h : n < 2 ^ 64) : Chunk :=
  ⟨List.replicate n 0, by rw [List.length_replicate]; exact h⟩

lemma zeros_size (n : Nat) (h : n < 2 ^ 64) : (zeros n h).size.toNat = n :=
  List.length_replicate n 0

/-! ### Along every run -/

lemma within_of_keeps {s s' : Op} (hw : s.written ≤ s.op.2)
    (h : s'.op = s.op ∧ s'.written = s.written) : s'.op = s.op ∧ s'.written ≤ s'.op.2 :=
  ⟨h.1, by rw [h.1, h.2]; exact hw⟩

lemma within_of_quiet {s s' : Op} (h : s.Quiet s') (hw : s.written ≤ s.op.2) :
    s'.op = s.op ∧ s'.written ≤ s'.op.2 :=
  within_of_keeps hw ⟨h.op, h.written⟩

lemma WriteOutcome.within {c : Chunk} {s s' : Op} (h : WriteOutcome E c s s')
    (hw : s.written ≤ s.op.2) : s'.op = s.op ∧ s'.written ≤ s'.op.2 := by
  cases h with
  | copy ha => exact ⟨rfl, ha.2.2⟩
  | _ => exact ⟨rfl, hw⟩

lemma within_request_step (s s' : Op) (e : Event) (h : (s.step E e).state = some s')
    (hw : s.written ≤ s.op.2) : s'.op = s.op ∧ s'.written ≤ s'.op.2 := by
  cases step_cases E s s' e h with
  | keepsOrFails h => exact within_of_quiet (.of_keepsOrFails h) hw
  | header _ h | redirect h =>
    -- the bound of the state with the line parsed, or with the broker dropped: the same bound
    have h := within_of_quiet (.of_keepsOrFails h) hw
    exact h
  | virtualSuccess hx => exact within_of_quiet (virtualSuccess_quiet E s hx) hw
  | success now h => exact within_of_quiet (success_quiet E now s _ h) hw
  | write c h => exact h.within E hw
  | waitSocket fd => exact within_of_keeps hw (waitSocketCallback_touchesSocket s fd).op_written
  | openSocket => exact within_of_keeps hw (openSocketCallback_touchesSocket s).op_written

lemma within_request_run (es : List Event) (s s' : Op) (h : s.run E es = some s')
    (hw : s.written ≤ s.op.2) : s'.op = s.op ∧ s'.written ≤ s'.op.2 := by
  induction es generalizing s with
  | nil => cases h; exact ⟨rfl, hw⟩
  | cons e es ih =>
    rw [Op.run_cons] at h
    cases hs : (s.step E e).state with
    | none => simp [hs] at h
    | some s₁ =>
      rw [hs] at h
      obtain ⟨ho₁, hw₁⟩ := within_request_step E s s₁ e hs hw
      obtain ⟨ho, hw'⟩ := ih s₁ h hw₁
      exact ⟨ho.trans ho₁, hw'⟩

def readFiveBytes : Op :=
  (demoRead.run demoEnv [demoSetup, .write (zeros 5 (by decide))]).getD demoRead

/-- `CURL_MAX_WRITE_SIZE`: the most bytes libcurl hands a write callback in one call. -/
def curlMaxWriteSize : Nat := 16384

lemma write_op : (CurlReadOp.write E c s).1.op = s.op := by
  unfold CurlReadOp.write
  split_ifs <;> rfl

example : readFiveBytes.accepts (zeros 11 (by decide)) ∧
    ¬ readFiveBytes.accepts (zeros 12 (by decide)) := by decide

/-! ### An empty read -/

def emptyReadResponse (k : Kind) (offset : UInt64) : Response :=
  if k = .pgReadOp then ⟨.ok, some (.pageInfo offset 0 [])⟩ else ⟨.ok, some (.chunkInfo offset 0)⟩

lemma setup_emptyRead (s : Op) (hk : s.kind.isRead = true) (hl : s.op.2 = 0) (h : CurlHandle)
    (now : Timespec) (useX509 : Bool) (certKey : String × String) :
    ∃ x, x.SameCore s ∧ x.headerList = s.headerList ∧
      s.setup E (some h) (some now) useX509 certKey = .ok () (CurlReadOp.virtualSuccess E x) := by
  obtain ⟨c, t, x, b, hs, -⟩ := setup_spec s useX509 certKey h now
  cases hkind : s.kind <;> simp only [hkind, Kind.isRead, Bool.false_eq_true] at hk
  all_goals
    simp only [Op.setup, hkind, CurlReadOp.setup, hs, Op.setopt]
    rw [if_pos hl]
    refine ⟨_, ?_, ?_, rfl⟩
    · constructor <;> first | rfl | exact hkind.symm
    · rfl

lemma virtualSuccess_empty (x : Op) (hw : x.written = 0) :
    (CurlReadOp.virtualSuccess E x).done = true ∧ (CurlReadOp.virtualSuccess E x).handler = false ∧
      (CurlReadOp.virtualSuccess E x).headerList = x.headerList ∧
      (CurlReadOp.virtualSuccess E x).trace = x.trace ++
        if x.handler then [.handleResponse (emptyReadResponse x.kind x.op.1)] else [] := by
  have hd : (0 : UInt64) / E.pageSize = 0 := (u64_eq_iff _ _).mpr (Nat.zero_div _)
  have hm : (0 : UInt64) % E.pageSize = 0 := (u64_eq_iff _ _).mpr (Nat.zero_mod _)
  unfold CurlReadOp.virtualSuccess CurlPgReadOp.success CurlReadOp.success emptyReadResponse
  split_ifs <;> simp_all [Op.setDone, Op.deliver, pageLoop]

/-- An entry of the trace that writes no byte of the caller's buffer. -/
def Effect.copiesNothing : Effect → Bool
  | .memcpy _ bytes => bytes.isEmpty
  | _ => true

lemma copiesNothing_of_isQuiet {e : Effect} (h : e.isQuiet) : e.copiesNothing := by
  cases e <;> first | rfl | cases h

lemma copiesNothing_of_isSocket {e : Effect} (h : e.isSocket) : e.copiesNothing := by
  cases e <;> first | rfl | cases h

/-- What an empty read keeps along a run. -/
structure Op.NothingCopied (s : Op) : Prop where
  length : s.op.2 = 0
  written : s.written = 0
  trace : ∀ e ∈ s.trace, e.copiesNothing

namespace Op.NothingCopied

variable {s r : Op}

lemma extend (h : s.NothingCopied) (ho : r.op = s.op) (hw : r.written = s.written)
    (t : List Effect) (ht : r.trace = s.trace ++ t) (hq : ∀ e ∈ t, e.copiesNothing) :
    r.NothingCopied where
  length := by rw [ho]; exact h.length
  written := by rw [hw]; exact h.written
  trace e he := by
    rw [ht, List.mem_append] at he
    exact he.elim (h.trace e) (hq e)

lemma quiet (h : s.NothingCopied) (hq : s.Quiet r) : r.NothingCopied :=
  let ⟨t, ht, hqt⟩ := hq.trace
  h.extend hq.op hq.written t ht fun e he => copiesNothing_of_isQuiet (hqt e he)

lemma keepsOrFails_from {x : Op} (h : s.NothingCopied) (hk : x.KeepsOrFails r) (ho : x.op = s.op)
    (hw : x.written = s.written) (ht : x.trace = s.trace) : r.NothingCopied :=
  (h.extend ho hw [] (by rw [ht, List.append_nil]) (by simp)).quiet (.of_keepsOrFails hk)

lemma touchesSocket (h : s.NothingCopied) (hr : s.TouchesSocket r) : r.NothingCopied := by
  obtain ⟨fd, x, hx, rfl | ⟨e, rfl, he⟩⟩ := hr
  · exact h.extend hx.op hx.written [] (by rw [hx.trace, List.append_nil]) (by simp)
  · exact h.extend hx.op hx.written [e] (by rw [Op.emit_trace, hx.trace])
      (by simpa using copiesNothing_of_isSocket he)

lemma writeOutcome {E : Env} {c : Chunk} (h : s.NothingCopied) (hw : WriteOutcome E c s r) :
    r.NothingCopied := by
  cases hw with
  | keep => exact h
  | fail m => exact h.quiet (.readFail _ _ _ s)
  | append _ => exact h.extend rfl rfl [] (List.append_nil _).symm (by simp)
  | copy ha =>
    have hc : c.bytes = [] := by
      have hg := ha.2.2
      rw [h.written, h.length, u64_le_iff, u64_toNat_add, Chunk.toNat_size,
        Nat.mod_eq_of_lt (by simpa using c.size_lt)] at hg
      exact List.length_eq_zero.mp (by simpa using hg)
    have hsz : c.size = 0 := (u64_eq_iff _ _).mpr (by rw [Chunk.toNat_size, hc]; rfl)
    exact h.extend rfl (by show s.written + c.size = s.written; rw [hsz, h.written]; rfl)
      [.memcpy _ c.bytes] rfl (by simp [Effect.copiesNothing, hc])

end Op.NothingCopied

lemma nothingCopied_step (s s' : Op) (e : Event) (h : (s.step E e).state = some s')
    (hs : s.NothingCopied) : s'.NothingCopied := by
  cases step_cases E s s' e h with
  | keepsOrFails h => exact hs.quiet (.of_keepsOrFails h)
  | header _ h | redirect h => exact hs.keepsOrFails_from h rfl rfl rfl
  | virtualSuccess hx => exact hs.quiet (virtualSuccess_quiet E s hx)
  | success now h => exact hs.quiet (success_quiet E now s _ h)
  | write c h => exact hs.writeOutcome h
  | waitSocket fd => exact hs.touchesSocket (waitSocketCallback_touchesSocket s fd)
  | openSocket => exact hs.touchesSocket (openSocketCallback_touchesSocket s)

lemma nothingCopied_run (es : List Event) (s s' : Op) (h : s.run E es = some s')
    (hs : s.NothingCopied) : s'.NothingCopied := by
  induction es generalizing s with
  | nil => cases h; exact hs
  | cons e es ih =>
    rw [Op.run_cons] at h
    cases h₁ : (s.step E e).state with
    | none => simp [h₁] at h
    | some s₁ =>
      rw [h₁] at h
      exact ih s₁ h (nothingCopied_step E s s₁ e h₁ hs)

/-- **An empty read succeeds at `Setup`.** A read of length `0` delivers a success of no bytes at
once, and no later call copies a byte. -/
theorem empty_read_succeeds_at_setup (s₀ : Op) (h₀ : Constructed E s₀)
    (hk : s₀.kind.isRead = true) (hl : s₀.op.2 = 0) :
    (∀ (h : CurlHandle) (now : Timespec) (useX509 : Bool) (certKey : String × String), ∃ s₁,
      s₀.step E (.setup (some h) (some now) useX509 certKey) = .ok () s₁ ∧
      s₁.done = true ∧ s₁.handler = false ∧ s₁.headerList = [] ∧
      s₁.trace = if s₀.handler then [.handleResponse (emptyReadResponse s₀.kind s₀.op.1)] else []) ∧
    ∀ es s, s₀.run E es = some s →
      s.written = 0 ∧ ∀ dst bytes, Effect.memcpy dst bytes ∈ s.trace → bytes = [] := by
  refine ⟨fun h now useX509 certKey => ?_, fun es s hs => ?_⟩
  · obtain ⟨x, hx, hh, he⟩ := setup_emptyRead E s₀ hk hl h now useX509 certKey
    obtain ⟨hd, hn, hhl, ht⟩ := virtualSuccess_empty E x (hx.written.trans h₀.written_eq_zero)
    refine ⟨_, he, hd, hn, hhl.trans (hh.trans h₀.headerList_nil), ?_⟩
    rw [ht, hx.trace, h₀.trace_nil, hx.handler, hx.kind, hx.op, List.nil_append]
  · have h := nothingCopied_run E es s₀ s hs
      ⟨hl, h₀.written_eq_zero, by simp [h₀.trace_nil]⟩
    exact ⟨h.written, fun dst bytes hm => by simpa [Effect.copiesNothing] using h.trace _ hm⟩

def emptyRead : Op :=
  CurlReadOp.new 1 demoEnv true "https://origin.example/f" ⟨0, 0⟩ (0, 0) fun _ => 0

theorem empty_read_succeeds_at_setup_demo :
    Constructed demoEnv emptyRead ∧ emptyRead.kind.isRead = true ∧ emptyRead.op.2 = 0 ∧
    ∃ s₁, emptyRead.step demoEnv demoSetup = .ok () s₁ ∧
      s₁.trace = [.handleResponse ⟨.ok, some (.chunkInfo 0 0)⟩] :=
  let ⟨hs, _⟩ := empty_read_succeeds_at_setup demoEnv emptyRead (.read ..) rfl rfl
  let ⟨s₁, h₁, _, _, _, ht⟩ := hs CurlHandle.fresh ⟨100, 0⟩ false ("", "")
  ⟨.read .., rfl, rfl, s₁, h₁, ht⟩

end XrdClPelican
