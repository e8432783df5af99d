import XrdClPelican.Driver

/-!
What each call can do to an operation, said once, so that the invariants of the later modules
never unfold a method.

Most calls change neither the delivery of the result (the trace, the handler, the done flag),
nor the request `m_op`, nor the body (`m_written` and `m_response`), nor the broker's socket,
nor the header parser, except by failing the operation: they `KeepsOrFails`. `Header` first
feeds the line to the parser; `Redirect` first drops the broker and its socket and, for a
response that names a location, starts a fresh parser (`redirectFrom`). The socket callbacks
only touch the socket. `Setup` on a handle sets the timeout, the handle's options and, with a
broker URL, the broker, and an empty read then succeeds at once; `ReleaseHandle` only clears
options. The write callback leaves the operation alone, fails it, copies an accepted chunk into
the caller's buffer or appends it to the buffered text. `Success` sets the done flag, decodes
the stat and records properties and the cache entry, then delivers (`SuccessOutcome`); so it is
`Quiet`: it keeps the request, the body, the socket and the parser, and records only effects
that are neither copies nor on the socket.

`step_cases` gathers these into `StepOutcome`, what one call of the driver can do, from which
each invariant's step lemma is a short case analysis.
-/

namespace XrdClPelican

def Effect.isSocket : Effect → Bool
  | .socketObtained _ | .socketHanded _ | .socketClosed _ => true
  | _ => false

/-- An effect that is neither a copy into the caller's buffer nor one on the broker's socket. -/
def Effect.isQuiet : Effect → Bool
  | .memcpy .. => false
  | e => !e.isSocket

namespace Op

/-- `x` agrees with `s` on the class, the delivery, the request, the body, the socket and the
parser. -/
structure SameCore (x s : Op) : Prop where
  kind : x.kind = s.kind
  trace : x.trace = s.trace
  handler : x.handler = s.handler
  done : x.done = s.done
  op : x.op = s.op
  written : x.written = s.written
  response : x.response = s.response
  socket : x.brokerReverseSocket = s.brokerReverseSocket
  headers : x.headers = s.headers

namespace SameCore

variable {x y s : Op}

lemma refl (s : Op) : SameCore s s := ⟨rfl, rfl, rfl, rfl, rfl, rfl, rfl, rfl, rfl⟩

lemma trans (h₁ : SameCore x y) (h₂ : SameCore y s) : SameCore x s :=
  ⟨h₁.kind.trans h₂.kind, h₁.trace.trans h₂.trace, h₁.handler.trans h₂.handler,
    h₁.done.trans h₂.done,
    h₁.op.trans h₂.op, h₁.written.trans h₂.written, h₁.response.trans h₂.response,
    h₁.socket.trans h₂.socket, h₁.headers.trans h₂.headers⟩

lemma redirectTo (E : Env) (location : String) (s : Op) :
    SameCore (s.redirectTo E location) { s with headers := E.newParser } := by
  obtain ⟨c, x, h⟩ := s.redirectTo_eq E location
  rw [h]; constructor <;> rfl

end SameCore

/-- Keeps the delivery, the request, the body, the socket and the parser of `s`, or fails it. -/
def KeepsOrFails (s r : Op) : Prop :=
  SameCore r s ∨ ∃ x c n m, SameCore x s ∧ SameCore r (x.fail c n m)

namespace KeepsOrFails

variable {x s s' r r' : Op}

lemma fail (h : SameCore x s) (c : UInt16) (n : UInt32) (m : String) :
    KeepsOrFails s (x.fail c n m) :=
  .inr ⟨x, c, n, m, h, .refl _⟩

lemma sameCore_left (h : SameCore s' s) (hk : KeepsOrFails s' r) : KeepsOrFails s r := by
  rcases hk with hr | ⟨x, c, n, m, hx, hr⟩
  · exact .inl (hr.trans h)
  · exact .inr ⟨x, c, n, m, hx.trans h, hr⟩

lemma sameCore_right (hk : KeepsOrFails s r) (h : SameCore r' r) : KeepsOrFails s r' := by
  rcases hk with hr | ⟨x, c, n, m, hx, hr⟩
  · exact .inl (h.trans hr)
  · exact .inr ⟨x, c, n, m, hx, h.trans hr⟩

end KeepsOrFails

/-- `r` keeps the request, the body, the socket and the parser of `s`, and adds quiet effects. -/
structure Quiet (s r : Op) : Prop where
  kind : r.kind = s.kind
  trace : ∃ t, r.trace = s.trace ++ t ∧ ∀ e ∈ t, e.isQuiet
  op : r.op = s.op
  written : r.written = s.written
  response : r.response = s.response
  socket : r.brokerReverseSocket = s.brokerReverseSocket
  headers : r.headers = s.headers

namespace Quiet

variable {s r r' : Op}

lemma trans (h₁ : Quiet s r) (h₂ : Quiet r r') : Quiet s r' := by
  obtain ⟨hk₁, ⟨t₁, ht₁, hq₁⟩, ho₁, hw₁, hr₁, hs₁, hh₁⟩ := h₁
  obtain ⟨hk₂, ⟨t₂, ht₂, hq₂⟩, ho₂, hw₂, hr₂, hs₂, hh₂⟩ := h₂
  exact ⟨hk₂.trans hk₁, ⟨t₁ ++ t₂, by rw [ht₂, ht₁, List.append_assoc],
    fun e he => (List.mem_append.mp he).elim (hq₁ e) (hq₂ e)⟩,
    ho₂.trans ho₁, hw₂.trans hw₁, hr₂.trans hr₁, hs₂.trans hs₁, hh₂.trans hh₁⟩

lemma emitAll (t : List Effect) (ht : ∀ e ∈ t, e.isQuiet) (x s : Op)
    (hx : x = { s with done := x.done, handler := x.handler, trace := s.trace ++ t }) :
    Quiet s x := by
  rw [hx]; exact ⟨rfl, ⟨t, rfl, ht⟩, rfl, rfl, rfl, rfl, rfl⟩

lemma of_sameCore (h : SameCore r s) : Quiet s r :=
  ⟨h.kind, ⟨[], by rw [h.trace, List.append_nil], by simp⟩, h.op, h.written, h.response,
    h.socket, h.headers⟩

lemma emit (e : Effect) (he : e.isQuiet) (s : Op) : Quiet s (s.emit e) :=
  emitAll [e] (by simpa using he) _ s rfl

lemma setDone (s : Op) : Quiet s s.setDone := emitAll [] (by simp) _ s (by simp [Op.setDone])

lemma deliver (res : Response) (s : Op) : Quiet s (s.deliver res) :=
  emitAll _ (by split <;> simp [Effect.isQuiet, Effect.isSocket]) _ s rfl

lemma setDone_deliver (res : Response) (s : Op) : Quiet s (s.setDone.deliver res) :=
  (setDone s).trans (deliver res _)

lemma fail (c : UInt16) (n : UInt32) (m : String) (s : Op) : Quiet s (s.fail c n m) := by
  rw [fail_eq_deliver]; exact setDone_deliver _ s

lemma readFail (c : UInt16) (n : UInt32) (m : String) (s : Op) :
    Quiet s (CurlReadOp.fail c n m s) :=
  setDone_deliver _ s

lemma of_keepsOrFails (h : KeepsOrFails s r) : Quiet s r := by
  rcases h with h | ⟨x, c, n, m, hx, hr⟩
  · exact of_sameCore h
  · exact (of_sameCore hx).trans ((fail c n m x).trans (of_sameCore hr))

end Quiet

end Op

open Op

def Op.headerFrom (E : Env) (line : String) (s : Op) : Op :=
  { s with receivedHeader := true, headers := (E.parse s.headers line).1 }

def Op.redirectFrom (E : Env) (s : Op) : Op :=
  { s with
    broker := none, brokerReverseSocket := -1,
    headers := if s.headers.location.isEmpty then s.headers else E.newParser }

/-! ### The calls that keep or fail -/

section Calls

variable (E : Env) (s : Op)

lemma header_keepsOrFails (line : String) :
    KeepsOrFails { s with headers := (E.parse s.headers line).1 }
      (CurlOperation.header E line s).1 := by
  unfold CurlOperation.header
  dsimp only
  split_ifs
  · exact .fail (by constructor <;> rfl) _ _ _
  · exact .inl (by constructor <;> rfl)

lemma headerCallback_keepsOrFails (line : String) :
    KeepsOrFails (s.headerFrom E line) (CurlOperation.headerCallback E line s).1 :=
  (header_keepsOrFails E _ line).sameCore_left (by constructor <;> rfl)

lemma redirect_keepsOrFails (err : Option String) :
    KeepsOrFails (s.redirectFrom E) (CurlOperation.redirect E err s).1 := by
  unfold CurlOperation.redirect
  dsimp only
  by_cases hl : s.headers.location.isEmpty
  · rw [if_pos hl]
    exact .fail (by constructor <;> simp [Op.redirectFrom, hl]) _ _ _
  have h₁ : SameCore (Op.redirectTo E s.headers.location
      { s with broker := none, brokerReverseSocket := -1 }) (s.redirectFrom E) :=
    (SameCore.redirectTo _ _ _).trans (by constructor <;> simp [Op.redirectFrom, hl])
  rw [if_neg hl]
  split_ifs
  · exact .inl h₁
  · cases err
    · exact .inl ((by constructor <;> rfl : SameCore _ _).trans h₁)
    · exact .fail ((by constructor <;> rfl : SameCore _ _).trans h₁) _ _ _

lemma opRedirect_keepsOrFails (err : Option String) :
    KeepsOrFails (s.redirectFrom E) (s.redirect E err).1 := by
  unfold Op.redirect CurlStatOp.redirect
  have h := redirect_keepsOrFails E s err
  split_ifs
  · generalize CurlOperation.redirect E err s = r at h ⊢
    obtain ⟨s₁, b⟩ := r
    dsimp only at h ⊢
    split_ifs <;> exact h.sameCore_right (by constructor <;> rfl)
  · exact h

lemma headerTimeoutExpired_keepsOrFails (now : Option Timespec) :
    s.KeepsOrFails (CurlOperation.headerTimeoutExpired now s).1 := by
  unfold CurlOperation.headerTimeoutExpired
  split_ifs
  · exact .inl (.refl s)
  · split
    · exact .inl (.refl s)
    · dsimp only; split_ifs <;> exact .inl (by constructor <;> rfl)

lemma startBroker_keepsOrFails (err : Option String) (s' : Op)
    (h : (CurlOperation.startBroker E err s).state = some s') : s.KeepsOrFails s' := by
  unfold CurlOperation.startBroker at h
  split_ifs at h
  · cases h; exact .fail (.refl s) _ _ _
  · split at h
    · cases h
    · split at h <;> cases h
      · exact .fail (.refl s) _ _ _
      · exact .inl (.refl s)

end Calls

/-! ### The socket callbacks -/

def Op.TouchesSocket (s r : Op) : Prop :=
  ∃ fd x, SameCore x { s with brokerReverseSocket := fd } ∧
    (r = x ∨ ∃ e, r = x.emit e ∧ e.isSocket)

lemma Op.TouchesSocket.op_written {s r : Op} (h : s.TouchesSocket r) :
    r.op = s.op ∧ r.written = s.written := by
  obtain ⟨fd, x, hx, rfl | ⟨e, rfl, -⟩⟩ := h
  all_goals exact ⟨hx.op, hx.written⟩

lemma Op.TouchesSocket.kind_response {s r : Op} (h : s.TouchesSocket r) :
    r.kind = s.kind ∧ r.response = s.response := by
  obtain ⟨fd, x, hx, rfl | ⟨e, rfl, -⟩⟩ := h
  all_goals exact ⟨hx.kind, hx.response⟩

lemma Op.TouchesSocket.headers {s r : Op} (h : s.TouchesSocket r) : r.headers = s.headers := by
  obtain ⟨fd, x, hx, rfl | ⟨e, rfl, -⟩⟩ := h
  all_goals exact hx.headers

section Socket

variable (s : Op)

lemma waitSocketCallback_touchesSocket (fd : Int) :
    s.TouchesSocket (CurlOperation.waitSocketCallback fd s).1 := by
  unfold CurlOperation.waitSocketCallback
  split
  · exact ⟨_, _, by constructor <;> rfl, .inl rfl⟩
  · dsimp only
    split_ifs
    · exact ⟨_, _, by constructor <;> rfl, .inl rfl⟩
    · exact ⟨_, _, by constructor <;> rfl, .inr ⟨_, rfl, rfl⟩⟩

lemma openSocketCallback_touchesSocket :
    s.TouchesSocket (CurlOperation.openSocketCallback s).1 := by
  unfold CurlOperation.openSocketCallback
  dsimp only
  split_ifs
  · exact ⟨_, _, by constructor <;> rfl, .inl rfl⟩
  · exact ⟨_, _, by constructor <;> rfl, .inr ⟨_, rfl, rfl⟩⟩

end Socket

/-! ### The handle -/

section Handle

variable (s : Op) (useX509 : Bool) (certKey : String × String)

lemma setup_spec (h : CurlHandle) (now : Timespec) :
    ∃ c timeout expiry broker,
      CurlOperation.setup (some h) (some now) useX509 certKey s = .ok { s with
        headerTimeout := timeout, headerExpiry := expiry, curl := some c, broker := broker } ∧
      (s.brokerUrl = "" → broker = s.broker ∧ c.brokerHooks = h.brokerHooks) := by
  unfold CurlOperation.setup
  dsimp only
  generalize (if s.headerTimeout.sec = 0 ∧ s.headerTimeout.nsec = 0 then ⟨30, 0⟩
    else s.headerTimeout : Timespec) = timeout
  split_ifs <;> refine ⟨_, _, _, _, rfl, fun he => ?_⟩
  all_goals first
    | exact ⟨rfl, rfl⟩
    | exact absurd (show s.brokerUrl.isEmpty = true from he ▸ rfl) ‹_›

lemma setup_sameCore {curl : Option CurlHandle} {now : Option Timespec} {s' : Op}
    (h : CurlOperation.setup curl now useX509 certKey s = .ok s') : SameCore s' s := by
  rcases curl with _ | c <;> rcases now with _ | n
  iterate 3 cases h
  obtain ⟨_, _, _, _, h', -⟩ := setup_spec s useX509 certKey c n
  rw [h'] at h
  cases h
  constructor <;> rfl

lemma releaseBase_sameCore : SameCore (CurlOperation.releaseHandle s).1 s := by
  unfold CurlOperation.releaseHandle
  split <;> constructor <;> rfl

lemma releaseStat_sameCore : SameCore (CurlStatOp.releaseHandle s).1 s := by
  unfold CurlStatOp.releaseHandle
  split
  · exact .refl s
  · dsimp only
    split_ifs <;> exact (releaseBase_sameCore _).trans (by constructor <;> rfl)

lemma releaseHandle_sameCore : SameCore s.releaseHandle.1 s := by
  unfold Op.releaseHandle CurlOpenOp.releaseHandle CurlReadOp.releaseHandle
    CurlListdirOp.releaseHandle
  split
  · exact releaseStat_sameCore s
  · exact (releaseStat_sameCore _).trans (by constructor <;> rfl)
  all_goals
    split
    · exact .refl s
    · exact (releaseBase_sameCore _).trans (by constructor <;> rfl)

lemma setup_cases (E : Env) (curl : Option CurlHandle) (now : Option Timespec) (s' : Op)
    (h : (s.setup E curl now useX509 certKey).state = some s') :
    SameCore s' s ∨ ∃ x, SameCore x s ∧ s' = CurlReadOp.virtualSuccess E x := by
  unfold Op.setup at h
  split at h
  all_goals first
    | -- the read classes
      unfold CurlReadOp.setup at h
      split at h
      · cases h; exact .inl (.refl s)
      · rename_i s₁ hs₁
        have h₁ := setup_sameCore s useX509 certKey hs₁
        dsimp only at h
        split_ifs at h <;> cases h
        · exact .inr ⟨_, (by constructor <;> rfl : SameCore _ _).trans h₁, rfl⟩
        · exact .inl ((by constructor <;> rfl : SameCore _ _).trans h₁)
    | -- the others, through `Except`
      unfold Op.setupRet at h
      split at h <;> cases h
      · rename_i s₁ hs
        simp only [CurlStatOp.setup, CurlListdirOp.setup, bind, Except.bind, pure,
          Except.pure] at hs
        split at hs
        · cases hs
        · rename_i s₂ hs₂
          have h₂ := setup_sameCore s useX509 certKey hs₂
          try split_ifs at hs
          all_goals cases hs; exact .inl ((by constructor <;> rfl : SameCore _ _).trans h₂)
      · exact .inl (.refl s)

end Handle

/-! ### The write callback -/

/-- The chunks `CurlReadOp::Write` copies. -/
def Op.accepts (s : Op) (c : Chunk) : Prop :=
  s.headers.multipartByterange = false ∧ (s.written = 0 → s.headers.offset = s.op.1) ∧
    s.written + c.size ≤ s.op.2

instance (s : Op) (c : Chunk) : Decidable (s.accepts c) := inferInstanceAs (Decidable (_ ∧ _ ∧ _))

/-- The bound the class's write callback puts on the buffered text. -/
def Kind.responseCap : Kind → UInt64
  | .statOp | .openOp => 1000000
  | .listdirOp => 10000000
  | .readOp | .pgReadOp => 0

/-- What the write callback can do with a chunk. -/
inductive WriteOutcome (E : Env) (c : Chunk) (s : Op) : Op → Prop
  | keep : WriteOutcome E c s s
  | fail (m : String) :
      WriteOutcome E c s (CurlReadOp.fail E.errErrorResponse E.kXR_ServerError m s)
  | copy (h : s.accepts c) : WriteOutcome E c s
      { s.emit (.memcpy s.written.toNat c.bytes) with written := s.written + c.size }
  | append (h : c.size + s.response.length.toUInt64 ≤ s.kind.responseCap) :
      WriteOutcome E c s { s with response := s.response ++ c.bytes }

lemma writeCallback_outcome (E : Env) (c : Chunk) (s : Op) :
    WriteOutcome E c s (s.writeCallback E c).1 := by
  cases hk : s.kind <;> simp only [Op.writeCallback, hk]
  case statOp | openOp =>
    unfold CurlStatOp.writeCallback
    split_ifs with _ hc
    · exact .keep
    · exact .append (by rw [hk]; exact UInt64.not_lt.mp hc)
    · exact .keep
  case readOp | pgReadOp =>
    unfold CurlReadOp.write
    split_ifs with hm ho hl
    iterate 3 exact .fail _
    exact .copy ⟨Bool.eq_false_iff.mpr hm,
      fun h0 => Classical.not_not.mp fun hne => ho ⟨h0, hne⟩, UInt64.not_lt.mp hl⟩
  case listdirOp =>
    unfold CurlListdirOp.writeCallback
    split_ifs with hc
    · exact .keep
    · exact .append (by rw [hk]; exact UInt64.not_lt.mp hc)

/-! ### Success -/

def Effect.isRecord : Effect → Bool
  | .setProperty .. | .dcachePut .. => true
  | _ => false

lemma Effect.isQuiet_of_isRecord {e : Effect} (h : e.isRecord) : e.isQuiet := by
  cases e <;> first | rfl | cases h

/-- What `Success` does between `SetDone()` and the delivery: it records properties and cache
entries. -/
structure Op.Records (s x : Op) : Prop where
  trace : ∃ t, x.trace = s.trace ++ t ∧ ∀ e ∈ t, e.isRecord
  kind : x.kind = s.kind
  op : x.op = s.op
  written : x.written = s.written
  response : x.response = s.response
  socket : x.brokerReverseSocket = s.brokerReverseSocket
  headers : x.headers = s.headers
  handler : x.handler = s.handler
  done : x.done = s.done

namespace Op.Records

variable {s x y : Op}

lemma refl (s : Op) : s.Records s :=
  ⟨⟨[], by simp, by simp⟩, rfl, rfl, rfl, rfl, rfl, rfl, rfl, rfl⟩

lemma trans (h₁ : s.Records x) (h₂ : x.Records y) : s.Records y := by
  obtain ⟨⟨t₁, ht₁, hr₁⟩, hk₁, ho₁, hw₁, hre₁, hs₁, hh₁, hn₁, hd₁⟩ := h₁
  obtain ⟨⟨t₂, ht₂, hr₂⟩, hk₂, ho₂, hw₂, hre₂, hs₂, hh₂, hn₂, hd₂⟩ := h₂
  exact ⟨⟨t₁ ++ t₂, by rw [ht₂, ht₁, List.append_assoc],
    fun e he => (List.mem_append.mp he).elim (hr₁ e) (hr₂ e)⟩, hk₂.trans hk₁, ho₂.trans ho₁,
    hw₂.trans hw₁, hre₂.trans hre₁, hs₂.trans hs₁, hh₂.trans hh₁, hn₂.trans hn₁, hd₂.trans hd₁⟩

lemma emitAll (t : List Effect) (ht : ∀ e ∈ t, e.isRecord) (s : Op) :
    s.Records { s with trace := s.trace ++ t } :=
  ⟨⟨t, rfl, ht⟩, rfl, rfl, rfl, rfl, rfl, rfl, rfl, rfl⟩

lemma emit (e : Effect) (he : e.isRecord) (s : Op) : s.Records (s.emit e) :=
  emitAll [e] (by simpa using he) s

lemma frame (h : x = { s with length := x.length, isDir := x.isDir }) : s.Records x := by
  rw [h]; exact ⟨⟨[], by simp, by simp⟩, rfl, rfl, rfl, rfl, rfl, rfl, rfl, rfl⟩

lemma setDone (hd : s.done = true) : s.Records s.setDone :=
  ⟨⟨[], by simp [Op.setDone], by simp⟩, rfl, rfl, rfl, rfl, rfl, rfl, rfl, hd.symm⟩

lemma quiet (h : s.Records x) : s.Quiet x :=
  let ⟨t, ht, hr⟩ := h.trace
  ⟨h.kind, ⟨t, ht, fun e he => Effect.isQuiet_of_isRecord (hr e he)⟩, h.op, h.written,
    h.response, h.socket, h.headers⟩

end Op.Records

/-- What a `Success` can end with. -/
inductive SuccessOutcome (s : Op) : Ret Unit → Prop
  | crash : SuccessOutcome s .crash
  | throw (e : Exc) {x : Op} (h : s.setDone.Records x) : SuccessOutcome s (.throw e x)
  | nullHandler {x : Op} (h : s.setDone.Records x) (hx : x.handler = false) :
      SuccessOutcome s (.ok () x)
  | deliver {x : Op} (h : s.setDone.Records x) (r : Response) :
      SuccessOutcome s (.ok () (x.deliver r))

namespace SuccessOutcome

variable {s y : Op} {r : Ret Unit}

lemma records (hy : s.setDone.Records y) (h : SuccessOutcome y r) : SuccessOutcome s r := by
  have hs : s.setDone.Records y.setDone := hy.trans (.setDone hy.done)
  cases h with
  | crash => exact .crash
  | throw e h => exact .throw e (hs.trans h)
  | nullHandler h hx => exact .nullHandler (hs.trans h) hx
  | deliver h r => exact .deliver (hs.trans h) r

lemma quiet {s' : Op} (h : SuccessOutcome s r) (hr : r.state = some s') : s.Quiet s' := by
  cases h with
  | crash => cases hr
  | throw e h => cases hr; exact (Quiet.setDone s).trans h.quiet
  | nullHandler h _ => cases hr; exact (Quiet.setDone s).trans h.quiet
  | deliver h r => cases hr; exact ((Quiet.setDone s).trans h.quiet).trans (.deliver _ _)

end SuccessOutcome

section Success

variable (E : Env) (now : Nat) (s : Op)

lemma getStatInfo_records (s' : Op) (h : (CurlStatOp.getStatInfo E s).state = some s') :
    s.Records s' :=
  .frame (getStatInfo_frame E s s' h)

lemma pgReadSuccess_cases : SuccessOutcome s (.ok () (CurlPgReadOp.success E s)) := by
  unfold CurlPgReadOp.success
  dsimp only
  split_ifs with hh
  · exact .nullHandler (.refl _) (by simpa using hh)
  all_goals exact .deliver (.refl _) _

lemma virtualSuccess_cases : SuccessOutcome s (.ok () (CurlReadOp.virtualSuccess E s)) := by
  unfold CurlReadOp.virtualSuccess
  split_ifs
  · exact pgReadSuccess_cases E s
  · exact .deliver (.refl _) _

lemma statSuccess_cases : SuccessOutcome s (CurlStatOp.success E now s) := by
  unfold CurlStatOp.success
  rcases hg : CurlStatOp.getStatInfo E s.setDone with ⟨⟨size, isdir⟩, s₁⟩ | ⟨e, s₁⟩ | _
  · have h₁ := getStatInfo_records E _ s₁ (by rw [hg]; rfl)
    simp only [Ret.bind_ok]
    split_ifs with _ hh
    · rw [fail_eq_deliver]; exact .deliver (h₁.trans (.setDone h₁.done)) _
    · exact .nullHandler h₁ (by simpa using hh)
    · exact .deliver (h₁.trans (.emit (.dcachePut _ _) rfl _)) _
    · exact .deliver h₁ _
  · exact .throw e (getStatInfo_records E _ s₁ (by rw [hg]; rfl))
  · exact .crash

lemma fileProperties_isRecord : ∀ e ∈ CurlOpenOp.fileProperties E s, e.isRecord := by
  unfold CurlOpenOp.fileProperties
  split <;> split_ifs <;> simp [Effect.isRecord]

lemma openSuccess_cases : SuccessOutcome s (CurlOpenOp.success E now s) := by
  unfold CurlOpenOp.success
  have h₀ : s.setDone.Records (CurlOpenOp.setFileProperties E s.setDone) :=
    .emitAll _ (fileProperties_isRecord E _) _
  rcases hg : CurlStatOp.getStatInfo E (CurlOpenOp.setFileProperties E s.setDone) with
    ⟨⟨size, isdir⟩, s₁⟩ | ⟨e, s₁⟩ | _
  · have h₁ := h₀.trans (getStatInfo_records E _ s₁ (by rw [hg]; rfl))
    simp only [Ret.bind_ok]
    split_ifs
    · rw [fail_eq_deliver]; exact .deliver (h₁.trans (.setDone h₁.done)) _
    · exact (statSuccess_cases E now _).records (h₁.trans (.emit (.setProperty _ _) rfl _))
    · exact (statSuccess_cases E now _).records h₁
  · exact .throw e (h₀.trans (getStatInfo_records E _ s₁ (by rw [hg]; rfl)))
  · exact .crash

lemma success_cases : SuccessOutcome s (s.success E now) := by
  unfold Op.success
  split
  · exact statSuccess_cases E now s
  · exact openSuccess_cases E now s
  · exact .deliver (.refl _) _
  · exact pgReadSuccess_cases E s
  · exact .deliver (.refl _) _

lemma success_quiet (s' : Op) (h : (s.success E now).state = some s') : s.Quiet s' :=
  (success_cases E now s).quiet h

lemma virtualSuccess_quiet {x : Op} (hx : SameCore x s) :
    s.Quiet (CurlReadOp.virtualSuccess E x) :=
  (Quiet.of_sameCore hx).trans ((virtualSuccess_cases E x).quiet rfl)

end Success

/-! ### One call of the driver -/

/-- What one call of the driver can do to an operation. -/
inductive StepOutcome (E : Env) (s : Op) : Event → Op → Prop
  | keepsOrFails {e : Event} {r : Op} (h : s.KeepsOrFails r) : StepOutcome E s e r
  | header {e : Event} {r : Op} (line : String) (h : KeepsOrFails (s.headerFrom E line) r) :
      StepOutcome E s e r
  | redirect {e : Event} {r : Op} (h : KeepsOrFails (s.redirectFrom E) r) : StepOutcome E s e r
  | virtualSuccess {e : Event} {x : Op} (h : SameCore x s) :
      StepOutcome E s e (CurlReadOp.virtualSuccess E x)
  | success {e : Event} (now : Nat) {r : Op} (h : (s.success E now).state = some r) :
      StepOutcome E s e r
  | write (c : Chunk) {r : Op} (h : WriteOutcome E c s r) : StepOutcome E s (.write c) r
  | waitSocket {e : Event} (fd : Int) :
      StepOutcome E s e (CurlOperation.waitSocketCallback fd s).1
  | openSocket {e : Event} : StepOutcome E s e (CurlOperation.openSocketCallback s).1

lemma step_cases (E : Env) (s s' : Op) (e : Event) (h : (s.step E e).state = some s') :
    StepOutcome E s e s' := by
  cases e <;> simp only [Op.step, Ret.state_ok, Ret.state_unit, Option.some.injEq] at h
  case setup =>
    rcases setup_cases s _ _ E _ _ s' h with h' | ⟨x, hx, rfl⟩
    · exact .keepsOrFails (.inl h')
    · exact .virtualSuccess hx
  case startBroker => exact .keepsOrFails (startBroker_keepsOrFails E s _ s' h)
  case success => exact .success _ h
  all_goals subst h
  case setBrokerUrl => exact .keepsOrFails (.inl (by constructor <;> rfl))
  case header => exact .header _ (headerCallback_keepsOrFails E s _)
  case write => exact .write _ (writeCallback_outcome E _ s)
  case redirect => exact .redirect (opRedirect_keepsOrFails E s _)
  case waitSocketCallback => exact .waitSocket _
  case openSocket => exact .openSocket
  case progress => exact .keepsOrFails (headerTimeoutExpired_keepsOrFails s _)
  case fail => exact .keepsOrFails (.fail (.refl s) _ _ _)
  case releaseHandle => exact .keepsOrFails (.inl (releaseHandle_sameCore s))

lemma step_kind (E : Env) (s s' : Op) (e : Event) (h : (s.step E e).state = some s') :
    s'.kind = s.kind := by
  cases step_cases E s s' e h with
  | keepsOrFails h => exact (Quiet.of_keepsOrFails h).kind
  | header line h => exact (Quiet.of_keepsOrFails h).kind
  | redirect h => exact (Quiet.of_keepsOrFails h).kind
  | virtualSuccess hx => exact (virtualSuccess_quiet E s hx).kind
  | success now h => exact (success_quiet E now s s' h).kind
  | write c h => cases h <;> rfl
  | waitSocket fd => exact (waitSocketCallback_touchesSocket s fd).kind_response.1
  | openSocket => exact (openSocketCallback_touchesSocket s).kind_response.1

lemma kind_run (E : Env) (es : List Event) (s s' : Op) (h : s.run E es = some s') :
    s'.kind = s.kind := by
  induction es generalizing s with
  | nil => cases h; rfl
  | cons e es ih =>
    rw [Op.run_cons] at h
    rcases hs : (s.step E e).state with _ | s₁ <;> rw [hs] at h
    · cases h
    · exact (ih s₁ h).trans (step_kind E s s₁ e hs)

end XrdClPelican
