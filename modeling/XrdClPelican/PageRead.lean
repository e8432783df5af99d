import XrdClPelican.Calls

/-!
`CurlPgReadOp` is a `CurlReadOp` that overrides one method, `Success`, to hand over a CRC-32C
for every page of the bytes read besides the bytes themselves. So a page read is a read:
`Op.asRead` forgets the class and the checksums in the trace, and every run of a page read,
mapped through it, is the run of the read built with the same arguments, call for call and
crash for crash (`pgRead_runs_as_read`).

The proof is a simulation, one lemma per method: each method of a read commutes with
`asRead`. Only two of them look at the class, the virtual `Fail` (which is `CurlReadOp::Fail`
for both) and the virtual `Success` (the one place they differ, by the checksums).
-/

namespace XrdClPelican

def AnyObject.withoutCksums : AnyObject → AnyObject
  | .pageInfo offset length _ => .chunkInfo offset length
  | o => o

/-- A response with the checksums of a page read forgotten. -/
def Response.withoutCksums (r : Response) : Response :=
  ⟨r.status, r.obj.map AnyObject.withoutCksums⟩

def Effect.withoutCksums : Effect → Effect
  | .handleResponse r => .handleResponse r.withoutCksums
  | e => e

/-- A page read seen as the read it extends. -/
def Op.asRead (s : Op) : Op :=
  { s with kind := .readOp, trace := s.trace.map Effect.withoutCksums }

namespace Op

variable (s : Op)

@[simp] lemma asRead_kind : s.asRead.kind = .readOp := rfl
@[simp] lemma asRead_handler : s.asRead.handler = s.handler := rfl
@[simp] lemma asRead_headers : s.asRead.headers = s.headers := rfl
@[simp] lemma asRead_op : s.asRead.op = s.op := rfl
@[simp] lemma asRead_written : s.asRead.written = s.written := rfl
@[simp] lemma asRead_curl : s.asRead.curl = s.curl := rfl
@[simp] lemma asRead_broker : s.asRead.broker = s.broker := rfl
@[simp] lemma asRead_brokerUrl : s.asRead.brokerUrl = s.brokerUrl := rfl
@[simp] lemma asRead_brokerReverseSocket :
    s.asRead.brokerReverseSocket = s.brokerReverseSocket := rfl
@[simp] lemma asRead_receivedHeader : s.asRead.receivedHeader = s.receivedHeader := rfl
@[simp] lemma asRead_headerExpiry : s.asRead.headerExpiry = s.headerExpiry := rfl
@[simp] lemma asRead_headerTimeout : s.asRead.headerTimeout = s.headerTimeout := rfl
@[simp] lemma asRead_x509Auth : s.asRead.x509Auth = s.x509Auth := rfl

/-! ### The primitives -/

lemma asRead_emit (e : Effect) (he : e.withoutCksums = e) :
    (s.emit e).asRead = s.asRead.emit e := by
  simp [asRead, emit, he]

lemma asRead_deliver (r : Response) :
    (s.deliver r).asRead = s.asRead.deliver r.withoutCksums := by
  unfold asRead deliver; split <;> simp [*, Effect.withoutCksums]

lemma asRead_setDone : s.setDone.asRead = s.asRead.setDone := rfl

lemma asRead_fail (hk : s.kind.isRead) (c : UInt16) (n : UInt32) (m : String) :
    (s.fail c n m).asRead = s.asRead.fail c n m := by
  have hm : s.asRead.failMessage m = s.failMessage m := by unfold failMessage; rw [hk]; rfl
  rw [fail_eq_deliver, fail_eq_deliver, asRead_deliver, asRead_setDone, hm]; rfl

lemma asRead_readFail (c : UInt16) (n : UInt32) (m : String) :
    (CurlReadOp.fail c n m s).asRead = CurlReadOp.fail c n m s.asRead := by
  unfold CurlReadOp.fail; rw [asRead_deliver, asRead_setDone]; rfl

end Op

open Op

/-! ### The methods -/

variable (E : Env) (s : Op)

lemma asRead_header (hk : s.kind.isRead) (line : String) :
    (CurlOperation.headerCallback E line s).1.asRead =
      (CurlOperation.headerCallback E line s.asRead).1 := by
  unfold CurlOperation.headerCallback CurlOperation.header
  simp only [asRead_headers]
  split_ifs
  · exact asRead_fail _ (by exact hk) _ _ _
  · rfl

lemma asRead_write (c : Chunk) :
    (CurlReadOp.write E c s).1.asRead = (CurlReadOp.write E c s.asRead).1 := by
  unfold CurlReadOp.write
  simp only [asRead_headers, asRead_written, asRead_op]
  split_ifs
  iterate 3 exact asRead_readFail _ _ _ _
  simp [asRead, emit, Effect.withoutCksums]

lemma asRead_redirectTo (location : String) :
    (s.redirectTo E location).asRead = s.asRead.redirectTo E location := by
  unfold redirectTo
  dsimp only [setopt]
  simp only [asRead_headers]
  split_ifs <;> rfl

lemma asRead_redirect (hk : s.kind.isRead) (err : Option String) :
    (CurlOperation.redirect E err s).1.asRead = (CurlOperation.redirect E err s.asRead).1 := by
  unfold CurlOperation.redirect
  simp only [asRead_headers]
  have h₁ := asRead_redirectTo E { s with broker := none, brokerReverseSocket := -1 }
    s.headers.location
  have hk₁ : (Op.redirectTo E s.headers.location
      { s with broker := none, brokerReverseSocket := -1 }).kind.isRead := by
    obtain ⟨c, x, h⟩ := Op.redirectTo_eq E s.headers.location
      { s with broker := none, brokerReverseSocket := -1 }
    rw [h]; exact hk
  split_ifs
  · exact asRead_fail _ (by exact hk) _ _ _
  · exact h₁
  · split
    · rw [asRead_fail _ (by exact hk₁)]
      exact congrArg (fun x : Op => Op.fail _ _ _ { x with
        brokerUrl := s.headers.broker, broker := some ⟨s.headers.broker⟩ }) h₁
    · exact congrArg (fun x : Op => Op.setBrokerHooks { x with
        brokerUrl := s.headers.broker, broker := some ⟨s.headers.broker⟩ }) h₁

lemma asRead_startBroker (hk : s.kind.isRead) (err : Option String) :
    (CurlOperation.startBroker E err s).state.map asRead =
      (CurlOperation.startBroker E err s.asRead).state := by
  unfold CurlOperation.startBroker
  simp only [asRead_brokerUrl, asRead_broker]
  split_ifs
  · simp [asRead_fail _ hk]
  · split
    · rfl
    · split <;> simp [asRead_fail _ hk]

lemma asRead_waitSocket (fd : Int) :
    (CurlOperation.waitSocketCallback fd s).1.asRead =
      (CurlOperation.waitSocketCallback fd s.asRead).1 := by
  unfold CurlOperation.waitSocketCallback
  simp only [asRead_broker]
  split
  · rfl
  · dsimp only; split_ifs
    · rfl
    · exact asRead_emit _ _ rfl

lemma asRead_openSocket :
    (CurlOperation.openSocketCallback s).1.asRead =
      (CurlOperation.openSocketCallback s.asRead).1 := by
  unfold CurlOperation.openSocketCallback
  simp only [asRead_brokerReverseSocket]
  split_ifs
  · rfl
  · exact asRead_emit _ _ rfl

lemma asRead_headerTimeoutExpired (now : Option Timespec) :
    (CurlOperation.headerTimeoutExpired now s).1.asRead =
      (CurlOperation.headerTimeoutExpired now s.asRead).1 := by
  unfold CurlOperation.headerTimeoutExpired
  simp only [asRead_receivedHeader, asRead_headerExpiry]
  split_ifs
  · rfl
  · split
    · rfl
    · dsimp only; split_ifs <;> rfl

lemma asRead_baseSetup (curl : Option CurlHandle) (now : Option Timespec) (useX509 : Bool)
    (certKey : String × String) :
    (CurlOperation.setup curl now useX509 certKey s).map asRead =
      CurlOperation.setup curl now useX509 certKey s.asRead := by
  unfold CurlOperation.setup
  split
  · rfl
  · rfl
  · dsimp only [setopt, setBrokerHooks]
    simp only [asRead_headerTimeout, asRead_x509Auth, asRead_brokerUrl]
    split_ifs <;> rfl

lemma deliver_of_handler_false (r : Response) (h : s.handler = false) : s.deliver r = s := by
  cases s; simp_all [deliver]

lemma asRead_pgSuccess : (CurlPgReadOp.success E s).asRead = CurlReadOp.success s.asRead := by
  unfold CurlPgReadOp.success CurlReadOp.success
  cases hh : s.handler
  · simp only [setDone_handler, hh, Bool.not_false, if_true]
    rw [deliver_of_handler_false _ _ (by simpa using hh)]; rfl
  · simp only [setDone_handler, hh, Bool.not_true, Bool.false_eq_true, if_false]
    rw [asRead_deliver]; rfl

lemma asRead_readSetup (hk : s.kind = .pgReadOp) (curl : Option CurlHandle)
    (now : Option Timespec) (useX509 : Bool) (certKey : String × String) :
    (CurlReadOp.setup E curl now useX509 certKey s).state.map asRead =
      (CurlReadOp.setup E curl now useX509 certKey s.asRead).state := by
  unfold CurlReadOp.setup
  rw [← asRead_baseSetup]
  rcases h : CurlOperation.setup curl now useX509 certKey s with e | s₁
  · rfl
  · have hk₁ : s₁.kind = .pgReadOp := (setup_sameCore s useX509 certKey h).kind.trans hk
    simp only [Except.map]
    dsimp only [setopt]
    simp only [asRead_op]
    split_ifs
    · simp only [Ret.state_ok, Option.map_some', CurlReadOp.virtualSuccess]
      rw [if_pos (by exact hk₁), if_neg (by simp)]
      exact congrArg some (asRead_pgSuccess E _)
    · rfl

lemma asRead_releaseHandle : (CurlReadOp.releaseHandle s).1.asRead =
    (CurlReadOp.releaseHandle s.asRead).1 := by
  rcases hc : s.curl with _ | h <;>
    simp only [CurlReadOp.releaseHandle, CurlOperation.releaseHandle, asRead_curl, hc, setopt,
      clearBrokerHooks, Option.map_some']
  rfl

/-! ### Runs -/

lemma asRead_step (hk : s.kind = .pgReadOp) (e : Event) :
    (s.step E e).state.map asRead = (s.asRead.step E e).state := by
  have hr : s.kind.isRead := by rw [hk]; rfl
  cases e <;> simp only [Op.step, Ret.state_ok, Option.map_some', Option.some.injEq]
  case setup curl now useX509 certKey =>
    simp only [Op.setup, hk, asRead_kind]
    exact asRead_readSetup E s hk curl now useX509 certKey
  case setBrokerUrl => rfl
  case header line => exact asRead_header E s hr line
  case write c =>
    simp only [Op.writeCallback, hk, asRead_kind]
    exact asRead_write E s c
  case redirect err =>
    simp only [Op.redirect, hk, asRead_kind, Kind.isStat, Bool.false_eq_true, if_false]
    exact asRead_redirect E s hr err
  case startBroker err => simpa using asRead_startBroker E s hr err
  case waitSocketCallback fd => exact asRead_waitSocket s fd
  case openSocket => exact asRead_openSocket s
  case progress now => exact asRead_headerTimeoutExpired s now
  case fail c n m => exact asRead_fail s hr c n m
  case success now =>
    simp only [Op.success, hk, asRead_kind, Ret.state_ok, Option.map_some']
    exact congrArg some (asRead_pgSuccess E s)
  case releaseHandle =>
    simp only [Op.releaseHandle, hk, asRead_kind]
    exact asRead_releaseHandle s

lemma asRead_run (es : List Event) (hk : s.kind = .pgReadOp) :
    (s.run E es).map asRead = s.asRead.run E es := by
  induction es generalizing s with
  | nil => rfl
  | cons e es ih =>
    rw [run_cons, run_cons, ← asRead_step E s hk e]
    rcases h : (s.step E e).state with _ | s₁
    · rfl
    · exact ih s₁ ((step_kind E s s₁ e h).trans hk)

/-- **A page read is a read.** Forgetting the class and the checksums, a page read runs through the
states of the `CurlReadOp` built with the same arguments. -/
theorem pgRead_runs_as_read (self : Nat) (handler : Bool) (url : String) (timeout : Timespec)
    (op : UInt64 × UInt64) (buffer : Nat → UInt8) (es : List Event) :
    ((CurlPgReadOp.new self E handler url timeout op buffer).run E es).map Op.asRead =
      (CurlReadOp.new self E handler url timeout op buffer).run E es :=
  asRead_run E _ es rfl

end XrdClPelican
