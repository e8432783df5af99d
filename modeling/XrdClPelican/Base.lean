import XrdClPelican.Operation
import Mathlib.Tactic.SplitIfs

/-!
The methods of `CurlOperation`: the header callback, redirects, the connection broker, the
header timeout, and the configuration of the curl handle by `Setup` and `ReleaseHandle`.

A method that cannot throw is a function `Op → Op × α`, its state threaded through `let`s in
the order of the source. One that can is a `Ret`: it returns, a C++ exception escapes it, or
it dereferences a null pointer.
-/

namespace XrdClPelican

/-- How a call ends: it returns, an exception escapes it, or it dereferences a null pointer. -/
inductive Ret (α : Type)
  | ok (a : α) (s : Op)
  | throw (e : Exc) (s : Op)
  | crash

namespace Ret

def bind {α β : Type} (r : Ret α) (f : α → Op → Ret β) : Ret β :=
  match r with
  | ok a s => f a s
  | throw e s => throw e s
  | crash => crash

def state {α : Type} : Ret α → Option Op
  | ok _ s | throw _ s => some s
  | crash => none

@[simp] lemma state_ok {α : Type} (a : α) (s : Op) : (ok a s).state = some s := rfl
@[simp] lemma state_throw {α : Type} (e : Exc) (s : Op) : (throw e s : Ret α).state = some s := rfl
@[simp] lemma state_crash {α : Type} : (crash : Ret α).state = none := rfl

def value {α : Type} : Ret α → Option α
  | ok a _ => some a
  | _ => none

def exc {α : Type} : Ret α → Option Exc
  | throw e _ => some e
  | _ => none

def unit {α : Type} (r : Ret α) : Ret Unit := r.bind fun _ s => ok () s

@[simp] lemma state_unit {α : Type} (r : Ret α) : r.unit.state = r.state := by
  cases r <;> rfl

@[simp] lemma bind_ok {α β : Type} (a : α) (s : Op) (f : α → Op → Ret β) :
    (ok a s).bind f = f a s := rfl
@[simp] lemma bind_throw {α β : Type} (e : Exc) (s : Op) (f : α → Op → Ret β) :
    (throw e s : Ret α).bind f = throw e s := rfl
@[simp] lemma bind_crash {α β : Type} (f : α → Op → Ret β) : (crash : Ret α).bind f = crash :=
  rfl

end Ret

def Op.setBrokerHooks (s : Op) : Op :=
  s.setopt fun h => { h with
    openSocketFunction := some .openSocketCallback, openSocketData := some s.self,
    sockOptFunction := some .sockOptCallback, sockOptData := some s.self }

def Op.clearBrokerHooks (s : Op) : Op :=
  s.setopt fun h => { h with
    openSocketFunction := none, openSocketData := none,
    sockOptFunction := none, sockOptData := none }

/-! ### Headers -/

def CurlOperation.header (E : Env) (header : String) (s : Op) : Op × Bool :=
  let (headers, result) := E.parse s.headers header
  let s := { s with headers := headers }
  if headers.headersDone && E.HTTPStatusIsError headers.statusCode then
    let httpErr := E.HTTPStatusConvert headers.statusCode
    (s.fail httpErr.1 httpErr.2 headers.statusMessage, result)
  else (s, result)

/-- `CurlOperation::HeaderCallback`; `false` stands for returning `0`, which aborts. -/
def CurlOperation.headerCallback (E : Env) (buffer : String) (s : Op) : Op × Bool :=
  CurlOperation.header E buffer { s with receivedHeader := true }

def Op.isRedirect (s : Op) : Bool := 300 ≤ s.headers.statusCode && s.headers.statusCode < 400

/-! ### Redirects and the broker

`startErr` is what `BrokerRequest::StartRequest` answers: `none` when it succeeds, the error
text when it returns `-1`. -/

/-- The part of `CurlOperation::Redirect` that runs once the response names a location. -/
def Op.redirectTo (E : Env) (location : String) (s : Op) : Op :=
  let s := s.setopt fun h => { h with url := some location }
  let s := { s with mirrorUrl := s.headers.mirrorUrl, mirrorDepth := s.headers.mirrorDepth }
  let s :=
    if s.headers.x509Auth then
      let s := { s with x509Auth := true }
      let s := if E.clientCertFile.isEmpty then s
        else s.setopt fun h => { h with sslCert := some E.clientCertFile }
      if E.clientKeyFile.isEmpty then s
        else s.setopt fun h => { h with sslKey := some E.clientKeyFile }
    else s
  { s with headers := E.newParser }

lemma Op.redirectTo_eq (E : Env) (location : String) (s : Op) :
    ∃ (c : Option CurlHandle) (x : Bool), s.redirectTo E location =
      { s with
        curl := c, mirrorUrl := s.headers.mirrorUrl, mirrorDepth := s.headers.mirrorDepth,
        x509Auth := x, headers := E.newParser } := by
  unfold Op.redirectTo
  dsimp only
  split_ifs <;> exact ⟨_, _, rfl⟩

section RedirectTo

variable (E : Env) (location : String) (s : Op)

@[simp] lemma Op.redirectTo_trace : (s.redirectTo E location).trace = s.trace := by
  obtain ⟨c, x, h⟩ := s.redirectTo_eq E location; rw [h]
@[simp] lemma Op.redirectTo_handler : (s.redirectTo E location).handler = s.handler := by
  obtain ⟨c, x, h⟩ := s.redirectTo_eq E location; rw [h]
@[simp] lemma Op.redirectTo_done : (s.redirectTo E location).done = s.done := by
  obtain ⟨c, x, h⟩ := s.redirectTo_eq E location; rw [h]
@[simp] lemma Op.redirectTo_written : (s.redirectTo E location).written = s.written := by
  obtain ⟨c, x, h⟩ := s.redirectTo_eq E location; rw [h]
@[simp] lemma Op.redirectTo_response : (s.redirectTo E location).response = s.response := by
  obtain ⟨c, x, h⟩ := s.redirectTo_eq E location; rw [h]
@[simp] lemma Op.redirectTo_broker : (s.redirectTo E location).broker = s.broker := by
  obtain ⟨c, x, h⟩ := s.redirectTo_eq E location; rw [h]
@[simp] lemma Op.redirectTo_brokerUrl : (s.redirectTo E location).brokerUrl = s.brokerUrl := by
  obtain ⟨c, x, h⟩ := s.redirectTo_eq E location; rw [h]
@[simp] lemma Op.redirectTo_brokerReverseSocket :
    (s.redirectTo E location).brokerReverseSocket = s.brokerReverseSocket := by
  obtain ⟨c, x, h⟩ := s.redirectTo_eq E location; rw [h]

end RedirectTo

def CurlOperation.redirect (E : Env) (startErr : Option String) (s : Op) : Op × Bool :=
  let broker := s.headers.broker
  let s := { s with broker := none, brokerReverseSocket := -1 }
  let location := s.headers.location
  if location.isEmpty then
    (s.fail E.errErrorResponse E.kXR_ServerError
      "Server returned redirect without updated location", false)
  else
  let s := s.redirectTo E location
  if broker.isEmpty then (s, true)
  else
  let s := { s with brokerUrl := broker, broker := some ⟨broker⟩ }
  match startErr with
  | some err =>
    (s.fail E.errInternal 1 ("Failed to start a read request for broker " ++ broker ++ ": " ++ err),
      false)
  | none => (s.setBrokerHooks, true)

def CurlOperation.setBrokerUrl (broker : String) (s : Op) : Op := { s with brokerUrl := broker }

def CurlOperation.startBroker (E : Env) (startErr : Option String) (s : Op) : Ret Bool :=
  if s.brokerUrl.isEmpty then .ok false (s.fail E.errInternal 1 "Broker URL is not set")
  else match s.broker with
  | none => .crash
  | some _ =>
    match startErr with
    | some err =>
      .ok false (s.fail E.errInternal 1
        ("Failed to start a read request for broker " ++ s.brokerUrl ++ ": " ++ err))
    | none => .ok true s

/-- `CurlOperation::WaitSocketCallback`, where `fd` is what `FinishRequest` returns. -/
def CurlOperation.waitSocketCallback (fd : Int) (s : Op) : Op × Int :=
  match s.broker with
  | none => ({ s with brokerReverseSocket := -1 }, -1)
  | some _ =>
    let s := { s with brokerReverseSocket := fd }
    (if fd = -1 then s else s.emit (.socketObtained fd), fd)

/-- `CurlOperation::OpenSocketCallback`; `-1` is `CURL_SOCKET_BAD`. -/
def CurlOperation.openSocketCallback (s : Op) : Op × Int :=
  let fd := s.brokerReverseSocket
  let s := { s with brokerReverseSocket := -1 }
  if fd = -1 then (s, -1) else (s.emit (.socketHanded fd), fd)

def CurlOperation.destroy (s : Op) : Op :=
  if s.brokerReverseSocket ≠ -1 then s.emit (.socketClosed s.brokerReverseSocket) else s

/-! ### The header timeout -/

/-- `CurlOperation::HeaderTimeoutExpired` at a clock reading, `none` when `clock_gettime` fails. -/
def CurlOperation.headerTimeoutExpired (now : Option Timespec) (s : Op) : Op × Bool :=
  if s.receivedHeader then (s, false)
  else match now with
  | none => (s, false)
  | some now =>
    let res := decide (now.sec > s.headerExpiry.sec) ||
      (now.sec == s.headerExpiry.sec && decide (now.nsec > s.headerExpiry.nsec))
    (if res then { s with error := .errHeaderTimeout } else s, res)

def carryLoop : (fuel : Nat) → (sec nsec : Int) → Timespec
  | 0, sec, nsec => ⟨sec, nsec⟩
  | fuel + 1, sec, nsec =>
    if nsec > 1000000000 then carryLoop fuel (sec + 1) (nsec - 1000000000) else ⟨sec, nsec⟩

/-- The loop of `Setup`; `tv_nsec` rounds are enough, each lowering it by `10^9`. -/
def normalizeExpiry (sec nsec : Int) : Timespec := carryLoop nsec.toNat sec nsec

/-! ### Setup and release of the handle -/

/-- `CurlOperation::Setup`, given the handle, the clock reading and the worker's answers. -/
def CurlOperation.setup (curl : Option CurlHandle) (now : Option Timespec) (useX509 : Bool)
    (certKey : String × String) (s : Op) : Except Exc Op :=
  match curl, now with
  | none, _ => .error (.runtimeError "Unable to setup curl operation with no handle")
  | _, none => .error (.runtimeError "Unable to get current time")
  | some h, some now =>
    let timeout := if s.headerTimeout.sec = 0 ∧ s.headerTimeout.nsec = 0 then ⟨30, 0⟩
      else s.headerTimeout
    let s := { s with
      headerTimeout := timeout,
      headerExpiry := normalizeExpiry (now.sec + timeout.sec) (now.nsec + timeout.nsec),
      curl := some h }
    let s := s.setopt fun h => { h with
      url := some s.url, headerFunction := some .headerCallback, headerData := some s.self,
      writeFunction := some .nullCallback, writeData := none,
      xferInfoFunction := some .xferInfoCallback, xferInfoData := some s.self,
      noProgress := false }
    let s := if s.x509Auth || useX509 then
        s.setopt fun h => { h with sslCert := some certKey.1, sslKey := some certKey.2 }
      else s
    if s.brokerUrl.isEmpty then .ok s
    else .ok { s with broker := some ⟨s.brokerUrl⟩ }.setBrokerHooks

/-- `CurlOperation::ReleaseHandle`, which also returns the handle it lets go of. -/
def CurlOperation.releaseHandle (s : Op) : Op × Option CurlHandle :=
  match s.curl with
  | none => (s, none)
  | some _ =>
    let s := s.setopt fun h => { h with sslCert := none, sslKey := none }
    ({ s with curl := none }, s.curl)

end XrdClPelican
