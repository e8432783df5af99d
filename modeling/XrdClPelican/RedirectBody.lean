import XrdClPelican.Broker
import XrdClPelican.ReadBuffer
import XrdClPelican.Headers

/-!
What a redirect does to the body. `Redirect` resets the response headers and the broker and
keeps everything else: `m_written`, the bytes already copied into the caller's buffer, and the
buffered PROPFIND or listing text. curl hands the body of a 3xx response to the write callback
like any other, so those bytes stay.

For a read, what it has taken from the responses (`Op.progress`: the parser of the current
response, `m_written` and the copies) moves at every call as the fold `readAfter` says: a chunk
that passes the three checks of `CurlReadOp::Write` against the parser of its own response is
copied at `m_written`, and `Redirect` only starts a new parser. The offset check therefore applies
while `m_written = 0`: to the first body of the chain, a redirect's included.
-/

namespace XrdClPelican

open Op

/-! ### Copies -/

/-- The `memcpy`s of a trace: destination in the buffer, and bytes. -/
def copies : List Effect → List (Nat × List UInt8)
  | [] => []
  | .memcpy dst bytes :: t => (dst, bytes) :: copies t
  | _ :: t => copies t

@[simp] lemma copies_nil : copies [] = [] := rfl

@[simp] lemma copies_append (t u : List Effect) : copies (t ++ u) = copies t ++ copies u := by
  induction t with
  | nil => rfl
  | cons e t ih => cases e <;> simp [copies, ih]

lemma copies_of_quiet (t : List Effect) (ht : ∀ e ∈ t, e.isQuiet) : copies t = [] := by
  induction t with
  | nil => rfl
  | cons e t ih =>
    have he := ht e (List.mem_cons_self _ _)
    cases e <;> simp only [copies, Effect.isQuiet, Bool.false_eq_true] at he ⊢ <;>
      exact ih fun e h => ht e (List.mem_cons_of_mem _ h)

lemma Op.Quiet.written_copies {s r : Op} (h : s.Quiet r) :
    r.written = s.written ∧ copies r.trace = copies s.trace := by
  obtain ⟨t, ht, hq⟩ := h.trace
  rw [ht, copies_append, copies_of_quiet t hq, List.append_nil]
  exact ⟨h.written, rfl⟩

lemma Op.TouchesSocket.written_copies {s r : Op} (h : s.TouchesSocket r) :
    r.written = s.written ∧ copies r.trace = copies s.trace := by
  obtain ⟨fd, x, hx, rfl | ⟨e, rfl, he⟩⟩ := h
  · exact ⟨hx.written, by rw [hx.trace]⟩
  · have he' : copies [e] = [] := by cases e <;> first | rfl | cases he
    exact ⟨hx.written, by rw [emit_trace, copies_append, hx.trace, he', List.append_nil]⟩

/-! ### What a read takes from the responses -/

/-- What a read has taken from the responses so far. -/
structure ReadProgress where
  headers : HeaderParser
  written : UInt64
  copied : List (Nat × List UInt8)
  deriving DecidableEq

def Op.progress (s : Op) : ReadProgress := ⟨s.headers, s.written, copies s.trace⟩

/-- One call, towards the request `op`: a chunk that comes with no multipart body, from the
requested offset if nothing was copied yet, and that fits, is copied at `m_written`; any other
call moves only the parser. -/
def readStep (E : Env) (op : UInt64 × UInt64) (p : ReadProgress) : Event → ReadProgress
  | .write c =>
    if p.headers.multipartByterange = false ∧ (p.written = 0 → p.headers.offset = op.1) ∧
        p.written + c.size ≤ op.2 then
      ⟨p.headers, p.written + c.size, p.copied ++ [(p.written.toNat, c.bytes)]⟩
    else p
  | e => { p with headers := headersStep E p.headers e }

def readAfter (E : Env) (op : UInt64 × UInt64) (p : ReadProgress) (es : List Event) :
    ReadProgress :=
  es.foldl (readStep E op) p

lemma readStep_of_not_write {E : Env} {op : UInt64 × UInt64} (p : ReadProgress) {e : Event}
    (he : ∀ c, e ≠ .write c) :
    readStep E op p e = { p with headers := headersStep E p.headers e } := by
  cases e <;> first | rfl | exact absurd rfl (he _)

section Steps

variable (E : Env) (s : Op)

lemma op_step (e : Event) (s' : Op) (h : (s.step E e).state = some s') : s'.op = s.op := by
  cases step_cases E s s' e h with
  | keepsOrFails h => exact (Quiet.of_keepsOrFails h).op
  | header _ h | redirect h => exact (Quiet.of_keepsOrFails h).op
  | virtualSuccess hx => exact (virtualSuccess_quiet E s hx).op
  | success now h => exact (success_quiet E now s _ h).op
  | write c h => cases h <;> rfl
  | waitSocket fd => exact (waitSocketCallback_touchesSocket s fd).op_written.1
  | openSocket => exact (openSocketCallback_touchesSocket s).op_written.1

lemma written_copies_step (e : Event) (he : ∀ c, e ≠ .write c) (s' : Op)
    (h : (s.step E e).state = some s') :
    s'.written = s.written ∧ copies s'.trace = copies s.trace := by
  cases step_cases E s s' e h with
  | keepsOrFails h => exact (Quiet.of_keepsOrFails h).written_copies
  | header _ h | redirect h => exact (Quiet.of_keepsOrFails h).written_copies
  | virtualSuccess hx => exact (virtualSuccess_quiet E s hx).written_copies
  | success now h => exact (success_quiet E now s _ h).written_copies
  | write c _ => exact absurd rfl (he c)
  | waitSocket fd => exact (waitSocketCallback_touchesSocket s fd).written_copies
  | openSocket => exact (openSocketCallback_touchesSocket s).written_copies

lemma readStep_write (c : Chunk) : readStep E s.op s.progress (.write c) =
    if s.accepts c then
      ⟨s.headers, s.written + c.size, copies s.trace ++ [(s.written.toNat, c.bytes)]⟩
    else s.progress := rfl

lemma writeCallback_of_isRead (hk : s.kind.isRead) (c : Chunk) :
    s.writeCallback E c = CurlReadOp.write E c s := by
  unfold Op.writeCallback
  cases h : s.kind <;> simp only [h, Kind.isRead, Bool.false_eq_true] at hk ⊢

lemma progress_step (hk : s.kind.isRead) (e : Event) (s' : Op)
    (h : (s.step E e).state = some s') : s'.progress = readStep E s.op s.progress e := by
  by_cases hw : ∃ c, e = .write c
  · obtain ⟨c, rfl⟩ := hw
    simp only [Op.step, Ret.state_ok, Option.some.injEq, writeCallback_of_isRead E s hk] at h
    subst h
    by_cases ha : s.accepts c
    · rw [write_of_accepts E c s ha, readStep_write, if_pos ha]
      simp only [Op.progress, emit_trace, copies_append]
      rfl
    · obtain ⟨msg, hm⟩ := write_of_not_accepts E c s ha
      have hq := Quiet.readFail E.errErrorResponse E.kXR_ServerError msg s
      rw [hm, readStep_write, if_neg ha]
      simp only [Op.progress, hq.written_copies.1, hq.written_copies.2, hq.headers]
  · push_neg at hw
    obtain ⟨hw', hc⟩ := written_copies_step E s e hw s' h
    rw [readStep_of_not_write _ hw, Op.progress, Op.progress, hw', hc, headers_step E s s' e h]

lemma progress_run (hk : s.kind.isRead) (es : List Event) (s' : Op) (h : s.run E es = some s') :
    s'.progress = readAfter E s.op s.progress es := by
  induction es generalizing s with
  | nil => cases h; rfl
  | cons e es ih =>
    rw [run_cons] at h
    rcases hs : (s.step E e).state with _ | s₁ <;> rw [hs] at h
    · cases h
    · have hk₁ : s₁.kind.isRead := by rw [step_kind E s s₁ e hs]; exact hk
      rw [ih s₁ hk₁ h, progress_step E s hk e s₁ hs, op_step E s e s₁ hs]
      rfl

end Steps

/-- A redirect response with a 3-byte body, and the `Redirect` that follows. -/
def redirectWithBody : List Event :=
  [.header "HTTP/1.1 302 Found\r\n", .header "Location: https://cache.example/f\r\n",
    .header "\r\n", .write (asciiChunk "<a>"), .redirect none]

def shortResponse : List Event :=
  [.header "HTTP/1.1 200 OK\r\n", .header "\r\n", .write (asciiChunk "0123456789abc")]

def bothBodies : List Event := demoSetup :: redirectWithBody ++ shortResponse

lemma bothBodies_chunks (c : Chunk) (hc : Event.write c ∈ bothBodies) : c.bytes.length ≤ 13 := by
  simp only [bothBodies, redirectWithBody, shortResponse, demoSetup, List.cons_append,
    List.nil_append, List.mem_cons, Event.write.injEq, List.mem_nil_iff, reduceCtorEq,
    false_or, or_false] at hc
  rcases hc with rfl | rfl <;> decide

/-! ### The cap on the buffered text -/

/-- The buffered text is within the cap of the operation's class. -/
def Op.Capped (s : Op) : Prop := s.response.length ≤ s.kind.responseCap.toNat

section Cap

variable {s r : Op}

lemma capped_of_frame (hk : r.kind = s.kind) (hr : r.response = s.response) (h : s.Capped) :
    r.kind = s.kind ∧ r.Capped :=
  ⟨hk, by unfold Op.Capped; rw [hk, hr]; exact h⟩

lemma capped_of_quiet (hq : s.Quiet r) (h : s.Capped) : r.kind = s.kind ∧ r.Capped :=
  capped_of_frame hq.kind hq.response h

lemma capped_of_writeOutcome {E : Env} {c : Chunk} (hw : WriteOutcome E c s r)
    (hc : c.size.toNat < 2 ^ 64 - 10000000) (h : s.Capped) : r.kind = s.kind ∧ r.Capped := by
  cases hw with
  | keep => exact ⟨rfl, h⟩
  | fail m => exact capped_of_quiet (.readFail _ _ _ s) h
  | copy => exact capped_of_frame rfl rfl h
  | append hg =>
    have hcap : s.kind.responseCap.toNat ≤ 10000000 := by cases s.kind <;> decide
    unfold Op.Capped at h
    rw [Chunk.toNat_size] at hc
    have hl : s.response.length.toUInt64.toNat = s.response.length := Nat.mod_eq_of_lt (by omega)
    rw [u64_le_iff, u64_toNat_add, hl, Chunk.toNat_size,
      Nat.mod_eq_of_lt (by unfold UInt64.size; omega)] at hg
    refine ⟨rfl, ?_⟩
    show (s.response ++ c.bytes).length ≤ s.kind.responseCap.toNat
    rw [List.length_append]; omega

end Cap

lemma capped_step (E : Env) (s s' : Op) (e : Event) (h : (s.step E e).state = some s')
    (he : ∀ c, e = .write c → c.size.toNat < 2 ^ 64 - 10000000) (hs : s.Capped) :
    s'.kind = s.kind ∧ s'.Capped := by
  cases step_cases E s s' e h with
  | keepsOrFails h => exact capped_of_quiet (.of_keepsOrFails h) hs
  | header _ h | redirect h =>
    have h := capped_of_quiet (.of_keepsOrFails h) hs
    exact h
  | virtualSuccess hx => exact capped_of_quiet (virtualSuccess_quiet E s hx) hs
  | success now h => exact capped_of_quiet (success_quiet E now s _ h) hs
  | write c h => exact capped_of_writeOutcome h (he c rfl) hs
  | waitSocket fd =>
    let ⟨hk, hr⟩ := (waitSocketCallback_touchesSocket s fd).kind_response
    exact capped_of_frame hk hr hs
  | openSocket =>
    let ⟨hk, hr⟩ := (openSocketCallback_touchesSocket s).kind_response
    exact capped_of_frame hk hr hs

lemma capped_run (E : Env) (es : List Event)
    (hes : ∀ c, Event.write c ∈ es → c.size.toNat < 2 ^ 64 - 10000000) (s s' : Op)
    (h : s.run E es = some s') (hs : s.Capped) : s'.kind = s.kind ∧ s'.Capped := by
  induction es generalizing s with
  | nil => cases h; exact ⟨rfl, hs⟩
  | cons e es ih =>
    rw [Op.run_cons] at h
    cases h₁ : (s.step E e).state with
    | none => simp [h₁] at h
    | some s₁ =>
      rw [h₁] at h
      have hs₁ := capped_step E s s₁ e h₁ (fun c hc => hes c (hc ▸ List.mem_cons_self _ _)) hs
      have hs' := ih (fun c hc => hes c (List.mem_cons_of_mem _ hc)) s₁ h hs₁.2
      exact ⟨hs'.1.trans hs₁.1, hs'.2⟩

/-- **The buffered text stays within its cap.** Along every run, a stat's text stays within 1000000
bytes, a listing's within 10000000, and a read's empty. -/
theorem response_within_cap (E : Env) (s₀ : Op) (h₀ : Constructed E s₀) (es : List Event)
    (hes : ∀ c, Event.write c ∈ es → c.size.toNat < 2 ^ 64 - 10000000) (s : Op)
    (hs : s₀.run E es = some s) :
    s.kind = s₀.kind ∧ s.response.length ≤ s₀.kind.responseCap.toNat := by
  have h := capped_run E es hes s₀ s hs (by
    unfold Op.Capped; rw [h₀.response_nil]; exact Nat.zero_le _)
  exact ⟨h.1, h.1 ▸ h.2⟩

def propfindBody : List Event := [demoSetup, .write (asciiChunk "<D:multistatus/>")]

def statAfterBody : Op := (propfindStat.run demoEnv propfindBody).getD propfindStat

theorem response_within_cap_propfind :
    Constructed demoEnv propfindStat ∧
    (∀ c, Event.write c ∈ propfindBody → c.size.toNat < 2 ^ 64 - 10000000) ∧
    propfindStat.run demoEnv propfindBody = some statAfterBody ∧
    statAfterBody.kind = propfindStat.kind ∧
    statAfterBody.response.length ≤ propfindStat.kind.responseCap.toNat := by
  have hes : ∀ c, Event.write c ∈ propfindBody → c.size.toNat < 2 ^ 64 - 10000000 := by
    intro c hc
    simp only [propfindBody, demoSetup, List.mem_cons, Event.write.injEq, List.mem_nil_iff,
      reduceCtorEq, false_or, or_false] at hc
    subst hc; decide
  exact ⟨.stat .., hes, rfl,
    response_within_cap demoEnv propfindStat (.stat ..) propfindBody hes statAfterBody rfl⟩

end XrdClPelican
