import XrdClPelican.Collaborators

/-!
The state of one operation of `CurlOps.cc`, for all five classes at once, and the delivery of
its result.

`CurlStatOp`, `CurlOpenOp`, `CurlReadOp`, `CurlPgReadOp` and `CurlListdirOp` share the fields
of `CurlOperation` and add a few of their own; here they are one flat record `Op` tagged by
its `kind`, and a virtual call is a `match` on the kind. What an operation does to the world
outside it (calls of the handler, properties of the `File`, entries of the director cache,
copies into the caller's buffer, sockets) is appended to its `trace`.
-/

namespace XrdClPelican

inductive Kind
  | statOp | openOp | readOp | pgReadOp | listdirOp
  deriving DecidableEq, Repr

def Kind.isRead : Kind → Bool
  | .readOp | .pgReadOp => true
  | _ => false

def Kind.isStat : Kind → Bool
  | .statOp | .openOp => true
  | _ => false

inductive OpError
  | errNone | errHeaderTimeout
  deriving DecidableEq, Repr

/-- `XrdCl::XRootDStatus`: success, or `stError` with a code, a number and a message. -/
inductive XRootDStatus
  | ok
  | error (code : UInt16) (errNo : UInt32) (msg : String)
  deriving DecidableEq, Repr

structure StatInfo where
  id : String
  size : Int
  isReadable : Bool
  isDir : Bool
  modTime : Nat
  deriving DecidableEq, Repr

/-- The object a success hands over. -/
inductive AnyObject
  | statInfo (info : StatInfo)
  | chunkInfo (offset length : UInt64)
  | pageInfo (offset length : UInt64) (cksums : List UInt32)
  | listing (body : List UInt8)
  deriving DecidableEq, Repr

/-- The arguments of one call of `ResponseHandler::HandleResponse`. -/
structure Response where
  status : XRootDStatus
  obj : Option AnyObject
  deriving DecidableEq, Repr

/-- What an operation does outside itself. -/
inductive Effect
  | handleResponse (r : Response)
  | setProperty (name value : String)
  | dcachePut (url : String) (depth : Int)
  | memcpy (dst : Nat) (bytes : List UInt8)
  | socketObtained (fd : Int)
  | socketHanded (fd : Int)
  | socketClosed (fd : Int)
  deriving DecidableEq, Repr

structure BrokerRequest where
  url : String
  deriving DecidableEq, Repr

/-- The fields of `CurlOperation` and its subclasses, and the effects so far. -/
structure Op where
  kind : Kind
  self : Nat
  url : String
  handler : Bool
  done : Bool
  curl : Option CurlHandle
  headers : HeaderParser
  receivedHeader : Bool
  error : OpError
  headerTimeout : Timespec
  headerExpiry : Timespec
  x509Auth : Bool
  broker : Option BrokerRequest
  brokerReverseSocket : Int
  brokerUrl : String
  mirrorUrl : String
  mirrorDepth : Int
  isPelican : Bool
  isOrigin : Bool
  isPropfind : Bool
  response : List UInt8
  length : Int
  isDir : Bool
  dcache : Bool
  op : UInt64 × UInt64
  written : UInt64
  callerBuffer : Nat → UInt8
  headerList : List String
  trace : List Effect

namespace Op

/-- `SetDone()`. Modelled from the spec: "the done flag, once set, is never cleared". -/
def setDone (s : Op) : Op := { s with done := true }

def emit (e : Effect) (s : Op) : Op := { s with trace := s.trace ++ [e] }

/-- `curl_easy_setopt` on `m_curl`, which does nothing when the operation holds no handle. -/
def setopt (f : CurlHandle → CurlHandle) (s : Op) : Op := { s with curl := s.curl.map f }

/-- `if (m_handler == nullptr) return;`, then `HandleResponse` and `m_handler = nullptr`. -/
def deliver (r : Response) (s : Op) : Op :=
  { s with trace := s.trace ++ (if s.handler then [.handleResponse r] else []), handler := false }

@[simp] lemma setDone_done (s : Op) : s.setDone.done = true := rfl
@[simp] lemma setDone_handler (s : Op) : s.setDone.handler = s.handler := rfl
@[simp] lemma setDone_trace (s : Op) : s.setDone.trace = s.trace := rfl
@[simp] lemma setDone_kind (s : Op) : s.setDone.kind = s.kind := rfl
@[simp] lemma emit_trace (e : Effect) (s : Op) : (s.emit e).trace = s.trace ++ [e] := rfl
@[simp] lemma emit_handler (e : Effect) (s : Op) : (s.emit e).handler = s.handler := rfl
@[simp] lemma emit_done (e : Effect) (s : Op) : (s.emit e).done = s.done := rfl
@[simp] lemma setopt_handler (f : CurlHandle → CurlHandle) (s : Op) :
    (s.setopt f).handler = s.handler := rfl
@[simp] lemma setopt_done (f : CurlHandle → CurlHandle) (s : Op) :
    (s.setopt f).done = s.done := rfl
@[simp] lemma setopt_trace (f : CurlHandle → CurlHandle) (s : Op) :
    (s.setopt f).trace = s.trace := rfl
@[simp] lemma setopt_curl (f : CurlHandle → CurlHandle) (s : Op) :
    (s.setopt f).curl = s.curl.map f := rfl
@[simp] lemma setopt_kind (f : CurlHandle → CurlHandle) (s : Op) :
    (s.setopt f).kind = s.kind := rfl
@[simp] lemma setopt_brokerUrl (f : CurlHandle → CurlHandle) (s : Op) :
    (s.setopt f).brokerUrl = s.brokerUrl := rfl

@[simp] lemma deliver_handler (r : Response) (s : Op) : (s.deliver r).handler = false := rfl
@[simp] lemma deliver_done (r : Response) (s : Op) : (s.deliver r).done = s.done := rfl
@[simp] lemma deliver_trace (r : Response) (s : Op) :
    (s.deliver r).trace = s.trace ++ if s.handler then [.handleResponse r] else [] := rfl

end Op

/-! ### Construction -/

def CurlOperation.new (kind : Kind) (self : Nat) (E : Env) (handler : Bool) (url : String)
    (timeout : Timespec) : Op where
  kind := kind
  self := self
  url := url
  handler := handler
  done := false
  curl := none
  headers := E.newParser
  receivedHeader := false
  error := .errNone
  headerTimeout := timeout
  headerExpiry := ⟨0, 0⟩
  x509Auth := false
  broker := none
  brokerReverseSocket := -1
  brokerUrl := ""
  mirrorUrl := ""
  mirrorDepth := 0
  isPelican := false
  isOrigin := false
  isPropfind := false
  response := []
  length := -1
  isDir := false
  dcache := false
  op := (0, 0)
  written := 0
  callerBuffer := fun _ => 0
  headerList := []
  trace := []

def CurlStatOp.new (self : Nat) (E : Env) (handler : Bool) (url : String) (timeout : Timespec)
    (isPelican isOrigin dcache : Bool) : Op :=
  { CurlOperation.new .statOp self E handler url timeout with
    isPelican := isPelican, isOrigin := isOrigin, dcache := dcache }

def CurlOpenOp.new (self : Nat) (E : Env) (handler : Bool) (url : String) (timeout : Timespec)
    (fileIsPelican fileIsCachedUrl dcache : Bool) : Op :=
  { CurlStatOp.new self E handler url timeout fileIsPelican fileIsCachedUrl dcache with
    kind := .openOp }

def CurlReadOp.new (self : Nat) (E : Env) (handler : Bool) (url : String) (timeout : Timespec)
    (op : UInt64 × UInt64) (buffer : Nat → UInt8) : Op :=
  { CurlOperation.new .readOp self E handler url timeout with op := op, callerBuffer := buffer }

def CurlPgReadOp.new (self : Nat) (E : Env) (handler : Bool) (url : String)
    (timeout : Timespec) (op : UInt64 × UInt64) (buffer : Nat → UInt8) : Op :=
  { CurlReadOp.new self E handler url timeout op buffer with kind := .pgReadOp }

def CurlListdirOp.new (self : Nat) (E : Env) (handler : Bool) (url : String) (isOrigin : Bool)
    (timeout : Timespec) : Op :=
  { CurlOperation.new .listdirOp self E handler url timeout with isOrigin := isOrigin }

/-! ### Failure -/

def CurlOperation.fail (errCode : UInt16) (errNum : UInt32) (msg : String) (s : Op) : Op :=
  s.setDone.deliver ⟨.error errCode errNum msg, none⟩

/-- `CurlReadOp::Fail`, which adds the offset to a non-empty message. -/
def CurlReadOp.fail (errCode : UInt16) (errNum : UInt32) (msg : String) (s : Op) : Op :=
  let customMsg :=
    if msg.isEmpty then msg else msg ++ " (read operation at offset " ++ toString s.op.1 ++ ")"
  s.setDone.deliver ⟨.error errCode errNum customMsg, none⟩

def Op.fail (errCode : UInt16) (errNum : UInt32) (msg : String) (s : Op) : Op :=
  if s.kind.isRead then CurlReadOp.fail errCode errNum msg s
  else CurlOperation.fail errCode errNum msg s

namespace Op

lemma fail_eq (c : UInt16) (n : UInt32) (m : String) (s : Op) :
    ∃ r, s.fail c n m = s.setDone.deliver r := by
  unfold fail CurlReadOp.fail CurlOperation.fail; split <;> exact ⟨_, rfl⟩

def failMessage (s : Op) (msg : String) : String :=
  if s.kind.isRead && !msg.isEmpty then
    msg ++ " (read operation at offset " ++ toString s.op.1 ++ ")"
  else msg

lemma fail_eq_deliver (c : UInt16) (n : UInt32) (m : String) (s : Op) :
    s.fail c n m = s.setDone.deliver ⟨.error c n (s.failMessage m), none⟩ := by
  unfold fail CurlReadOp.fail CurlOperation.fail failMessage
  by_cases hr : s.kind.isRead <;> by_cases hm : m.isEmpty <;> simp [hr, hm]

lemma fail_of_not_isRead {s : Op} (h : s.kind.isRead = false) (c : UInt16) (n : UInt32)
    (m : String) : s.fail c n m = CurlOperation.fail c n m s := by
  simp [fail, h]

@[simp] lemma fail_handler (c : UInt16) (n : UInt32) (m : String) (s : Op) :
    (s.fail c n m).handler = false := by
  obtain ⟨r, h⟩ := fail_eq c n m s; simp [h]

@[simp] lemma fail_done (c : UInt16) (n : UInt32) (m : String) (s : Op) :
    (s.fail c n m).done = true := by
  obtain ⟨r, h⟩ := fail_eq c n m s; simp [h]

end Op

end XrdClPelican
