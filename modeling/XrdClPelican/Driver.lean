import XrdClPelican.Read

/-!
The operation as the driver sees it: the virtual methods dispatched on the class, the
callbacks as events, and runs.

The driver (`CurlWorker` and curl itself) is not part of `CurlOps.cc`; a run lets it call any
callback in any order, including after the result was delivered. An escaping exception does
not end a run, since the driver may catch it and go on (it calls `Fail` after a `Setup` that
throws); a null dereference does.
-/

namespace XrdClPelican

namespace Op

/-- A `Setup` that threw left the operation as it was. -/
def setupRet (s : Op) : Except Exc Op → Ret Unit
  | .ok s => .ok () s
  | .error e => .throw e s

def setup (E : Env) (curl : Option CurlHandle) (now : Option Timespec) (useX509 : Bool)
    (certKey : String × String) (s : Op) : Ret Unit :=
  match s.kind with
  | .statOp | .openOp => s.setupRet (CurlStatOp.setup curl now useX509 certKey s)
  | .readOp | .pgReadOp => CurlReadOp.setup E curl now useX509 certKey s
  | .listdirOp => s.setupRet (CurlListdirOp.setup curl now useX509 certKey s)

def writeCallback (E : Env) (chunk : Chunk) (s : Op) : Op × UInt64 :=
  match s.kind with
  | .statOp | .openOp => CurlStatOp.writeCallback chunk s
  | .readOp | .pgReadOp => CurlReadOp.write E chunk s
  | .listdirOp => CurlListdirOp.writeCallback chunk s

def redirect (E : Env) (startErr : Option String) (s : Op) : Op × Bool :=
  if s.kind.isStat then CurlStatOp.redirect E startErr s else CurlOperation.redirect E startErr s

def success (E : Env) (now : Nat) (s : Op) : Ret Unit :=
  match s.kind with
  | .statOp => CurlStatOp.success E now s
  | .openOp => CurlOpenOp.success E now s
  | .readOp => .ok () (CurlReadOp.success s)
  | .pgReadOp => .ok () (CurlPgReadOp.success E s)
  | .listdirOp => .ok () (CurlListdirOp.success s)

def releaseHandle (s : Op) : Op × Option CurlHandle :=
  match s.kind with
  | .statOp => CurlStatOp.releaseHandle s
  | .openOp => CurlOpenOp.releaseHandle s
  | .readOp | .pgReadOp => CurlReadOp.releaseHandle s
  | .listdirOp => CurlListdirOp.releaseHandle s

end Op

/-- A call the driver makes on an operation, with what the collaborators it consults answer. -/
inductive Event
  | setup (curl : Option CurlHandle) (now : Option Timespec) (useX509 : Bool)
      (certKey : String × String)
  | setBrokerUrl (broker : String)
  | header (line : String)
  | write (chunk : Chunk)
  | redirect (startErr : Option String)
  | startBroker (startErr : Option String)
  | waitSocketCallback (fd : Int)
  | openSocket
  | progress (now : Option Timespec)
  | fail (errCode : UInt16) (errNum : UInt32) (msg : String)
  | success (now : Nat)
  | releaseHandle

def Op.step (E : Env) (s : Op) : Event → Ret Unit
  | .setup curl now useX509 certKey => s.setup E curl now useX509 certKey
  | .setBrokerUrl broker => .ok () (CurlOperation.setBrokerUrl broker s)
  | .header line => .ok () (CurlOperation.headerCallback E line s).1
  | .write chunk => .ok () (s.writeCallback E chunk).1
  | .redirect startErr => .ok () (s.redirect E startErr).1
  | .startBroker startErr => (CurlOperation.startBroker E startErr s).unit
  | .waitSocketCallback fd => .ok () (CurlOperation.waitSocketCallback fd s).1
  | .openSocket => .ok () (CurlOperation.openSocketCallback s).1
  | .progress now => .ok () (CurlOperation.headerTimeoutExpired now s).1
  | .fail errCode errNum msg => .ok () (s.fail errCode errNum msg)
  | .success now => s.success E now
  | .releaseHandle => .ok () s.releaseHandle.1

/-- A run of calls; `none` once one of them has dereferenced a null pointer. -/
def Op.run (E : Env) (s : Op) : List Event → Option Op
  | [] => some s
  | e :: es => (s.step E e).state.bind fun s => Op.run E s es

namespace Op

@[simp] lemma run_nil (E : Env) (s : Op) : s.run E [] = some s := rfl

lemma run_cons (E : Env) (s : Op) (e : Event) (es : List Event) :
    s.run E (e :: es) = (s.step E e).state.bind fun s => s.run E es := rfl

lemma run_append (E : Env) (s : Op) (es fs : List Event) :
    s.run E (es ++ fs) = (s.run E es).bind fun s => s.run E fs := by
  induction es generalizing s with
  | nil => rfl
  | cons e es ih =>
    simp only [List.cons_append, run_cons]
    cases (s.step E e).state <;> simp [ih]

end Op

end XrdClPelican

namespace XrdClPelican

/-- The operations the constructors of the five classes build. -/
inductive Constructed (E : Env) : Op → Prop
  | stat (self : Nat) (handler : Bool) (url : String) (timeout : Timespec)
      (isPelican isOrigin dcache : Bool) :
      Constructed E (CurlStatOp.new self E handler url timeout isPelican isOrigin dcache)
  | openOp (self : Nat) (handler : Bool) (url : String) (timeout : Timespec)
      (fileIsPelican fileIsCachedUrl dcache : Bool) :
      Constructed E (CurlOpenOp.new self E handler url timeout fileIsPelican fileIsCachedUrl dcache)
  | read (self : Nat) (handler : Bool) (url : String) (timeout : Timespec)
      (op : UInt64 × UInt64) (buffer : Nat → UInt8) :
      Constructed E (CurlReadOp.new self E handler url timeout op buffer)
  | pgRead (self : Nat) (handler : Bool) (url : String) (timeout : Timespec)
      (op : UInt64 × UInt64) (buffer : Nat → UInt8) :
      Constructed E (CurlPgReadOp.new self E handler url timeout op buffer)
  | listdir (self : Nat) (handler : Bool) (url : String) (isOrigin : Bool) (timeout : Timespec) :
      Constructed E (CurlListdirOp.new self E handler url isOrigin timeout)

lemma Constructed.trace_nil {E : Env} {s : Op} (h : Constructed E s) : s.trace = [] := by
  cases h <;> rfl

lemma Constructed.written_eq_zero {E : Env} {s : Op} (h : Constructed E s) : s.written = 0 := by
  cases h <;> rfl

lemma Constructed.socket_eq {E : Env} {s : Op} (h : Constructed E s) :
    s.brokerReverseSocket = -1 := by
  cases h <;> rfl

lemma Constructed.response_nil {E : Env} {s : Op} (h : Constructed E s) : s.response = [] := by
  cases h <;> rfl

lemma Constructed.headerList_nil {E : Env} {s : Op} (h : Constructed E s) : s.headerList = [] := by
  cases h <;> rfl

def demoParse (h : HeaderParser) (line : String) : HeaderParser × Bool :=
  if line = "HTTP/1.1 200 OK\r\n" then ({ h with statusCode := 200, statusMessage := "OK" }, true)
  else if line = "HTTP/1.1 302 Found\r\n" then
    ({ h with statusCode := 302, statusMessage := "Found" }, true)
  else if line = "HTTP/1.1 404 Not Found\r\n" then
    ({ h with statusCode := 404, statusMessage := "Not Found" }, true)
  else if line = "Location: https://cache.example/f\r\n" then
    ({ h with location := "https://cache.example/f" }, true)
  else if line = "X-Pelican-Broker: https://broker.example\r\n" then
    ({ h with broker := "https://broker.example" }, true)
  else if line = "Content-Length: 16\r\n" then ({ h with contentLength := 16 }, true)
  else if line = "\r\n" then ({ h with headersDone := true }, true)
  else (h, false)

/-- An environment to run the model on, with XRootD's values of the constants. -/
def demoEnv : Env where
  newParser := ⟨0, "", -1, "", false, 0, "", 0, false, "", false⟩
  parse := demoParse
  HTTPStatusIsError code := 400 ≤ code
  HTTPStatusConvert _ := (400, 3011)
  clientCertFile := ""
  clientKeyFile := ""
  xmlParse _ := none
  effectiveUrl url := url
  calc32C _ := 0
  pageSize := 4096
  pageSize_pos := by decide
  errErrorResponse := 400
  errInternal := 7
  kXR_ServerError := 3012
  kXR_FSError := 3005
  kXR_isDirectory := 3016

/-- A read of 16 bytes at offset 0, with a handler, at address 1. -/
def demoRead : Op :=
  CurlReadOp.new 1 demoEnv true "https://origin.example/f" ⟨0, 0⟩ (0, 16) fun _ => 0

def propfindStat : Op :=
  CurlStatOp.new 1 demoEnv true "https://origin.example/f" ⟨0, 0⟩ true true false

def demoSetup : Event := .setup (some CurlHandle.fresh) (some ⟨100, 0⟩) false ("", "")

def ascii (text : String) : List UInt8 := text.toList.map fun c => c.toNat.toUInt8

def asciiChunk (text : String) : Chunk :=
  ⟨(ascii text).take (2 ^ 64 - 1), by rw [List.length_take]; omega⟩

end XrdClPelican
