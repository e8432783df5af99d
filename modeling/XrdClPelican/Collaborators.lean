import Mathlib.Tactic.Lemma
import Mathlib.Algebra.Group.Int
import Mathlib.Algebra.Group.Nat.Basic

/-!
What `CurlOps.cc` calls but does not define: the curl easy handle, the header parser, the
parsed tinyxml2 document, `std::stoll`, and the process configuration and constants.

A curl handle is the record of the options this file sets; `none` stands for an option left
at curl's default, which is also what setting it to `nullptr` restores. The header parser,
the XML parser, the checksum and the XRootD constants are fields of `Env`, so that every
result holds for every parser and every value of the constants. What the broker and the
clock answer is carried by the driver's events instead (see `Driver`).
-/

namespace XrdClPelican

/-! ### The curl handle -/

inductive Callback
  | headerCallback | nullCallback | xferInfoCallback
  | statWriteCallback | readWriteCallback | listdirWriteCallback
  | openSocketCallback | sockOptCallback
  deriving DecidableEq, Repr

/-- The options of a curl easy handle that this file sets. -/
structure CurlHandle where
  url : Option String := none
  headerFunction : Option Callback := none
  headerData : Option Nat := none
  writeFunction : Option Callback := none
  writeData : Option Nat := none
  xferInfoFunction : Option Callback := none
  xferInfoData : Option Nat := none
  noProgress : Bool := true
  sslCert : Option String := none
  sslKey : Option String := none
  openSocketFunction : Option Callback := none
  openSocketData : Option Nat := none
  sockOptFunction : Option Callback := none
  sockOptData : Option Nat := none
  customRequest : Option String := none
  noBody : Bool := false
  httpHeader : Option (List String) := none
  deriving DecidableEq, Repr

def CurlHandle.fresh : CurlHandle := {}

/-- The four options that hand curl the broker's socket. -/
def CurlHandle.brokerHooks (h : CurlHandle) :
    Option Callback × Option Nat × Option Callback × Option Nat :=
  (h.openSocketFunction, h.openSocketData, h.sockOptFunction, h.sockOptData)

/-! ### The header parser -/

/-- What `HeaderParser` reports of the response headers read so far. -/
structure HeaderParser where
  statusCode : Nat
  statusMessage : String
  contentLength : Int
  location : String
  multipartByterange : Bool
  offset : UInt64
  mirrorUrl : String
  mirrorDepth : Int
  x509Auth : Bool
  broker : String
  headersDone : Bool
  deriving DecidableEq, Repr

/-! ### Parsed XML -/

/-- An element of a parsed tinyxml2 document: its name, its text and its child elements. -/
inductive XMLElement
  | mk (name : String) (text : Option String) (children : List XMLElement)

namespace XMLElement

def name : XMLElement → String
  | mk n _ _ => n

def text : XMLElement → Option String
  | mk _ t _ => t

def children : XMLElement → List XMLElement
  | mk _ _ c => c

@[simp] lemma name_mk (n : String) (t : Option String) (c : List XMLElement) :
    (mk n t c).name = n := rfl
@[simp] lemma text_mk (n : String) (t : Option String) (c : List XMLElement) :
    (mk n t c).text = t := rfl
@[simp] lemma children_mk (n : String) (t : Option String) (c : List XMLElement) :
    (mk n t c).children = c := rfl

def hasChild (e : XMLElement) (n : String) : Bool := e.children.any (·.name == n)

end XMLElement

/-- A document `XMLDocument::Parse` accepted; `root` is `RootElement()`, which may be null. -/
structure XMLDocument where
  root : Option XMLElement

/-! ### `std::stoll` -/

/-- The C++ exceptions and the faults a call of this file can end with. -/
inductive Exc
  | invalidArgument
  | outOfRange
  | runtimeError (what : String)
  deriving DecidableEq, Repr

def isspace (c : Char) : Bool :=
  c == ' ' || c == '\t' || c == '\n' || c == '\x0b' || c == '\x0c' || c == '\r'

def digitsValue (ds : List Char) : Nat :=
  ds.foldl (fun n c => 10 * n + (c.toNat - '0'.toNat)) 0

def readSign : List Char → Bool × List Char
  | '-' :: r => (true, r)
  | '+' :: r => (false, r)
  | r => (false, r)

/-- `std::stoll(str)` in base 10, with the exceptions it throws. -/
def stoll (str : String) : Except Exc Int :=
  let (neg, cs) := readSign (str.toList.dropWhile isspace)
  let ds := cs.takeWhile Char.isDigit
  if ds.isEmpty then .error .invalidArgument
  else
    let v : Int := if neg then -(digitsValue ds : Int) else digitsValue ds
    if v < -2 ^ 63 ∨ 2 ^ 63 ≤ v then .error .outOfRange else .ok v

lemma isspace_of_isDigit {c : Char} (h : c.isDigit) : isspace c = false := by
  revert h
  simp only [isspace, Bool.or_eq_false_iff, beq_eq_false_iff_ne, ne_eq]
  intro h
  refine ⟨⟨⟨⟨⟨?_, ?_⟩, ?_⟩, ?_⟩, ?_⟩, ?_⟩ <;> rintro rfl <;> exact absurd h (by decide)

lemma readSign_of_isDigit {c : Char} (h : c.isDigit) (r : List Char) :
    readSign (c :: r) = (false, c :: r) := by
  unfold readSign
  split
  · rename_i heq; cases heq; exact absurd h (by decide)
  · rename_i heq; cases heq; exact absurd h (by decide)
  · rfl

lemma stoll_digits_append (ds rest : List Char) (hd : ∀ c ∈ ds, c.isDigit) (hne : ds ≠ [])
    (hr : ∀ c ∈ rest.head?, c.isDigit = false) (hv : digitsValue ds < 2 ^ 63) :
    stoll (String.mk (ds ++ rest)) = .ok (digitsValue ds) := by
  obtain ⟨c, cs, rfl⟩ := List.exists_cons_of_ne_nil hne
  have hc := hd c (List.mem_cons_self _ _)
  have htake : ((c :: cs) ++ rest).takeWhile Char.isDigit = c :: cs := by
    rw [List.takeWhile_append_of_pos hd]
    cases rest with
    | nil => simp
    | cons r rs => simp [List.takeWhile_cons, hr r rfl]
  have hdrop : ((c :: cs) ++ rest).dropWhile isspace = (c :: cs) ++ rest := by
    simp [List.dropWhile_cons, isspace_of_isDigit hc]
  simp only [stoll, String.toList]
  rw [hdrop, List.cons_append, readSign_of_isDigit hc, ← List.cons_append, htake]
  simp only [List.cons_ne_nil, if_false, Bool.false_eq_true, List.isEmpty_cons]
  rw [if_neg (by omega)]

example : stoll "12abc" = .ok 12 := rfl

/-! ### Time -/

structure Timespec where
  sec : Int
  nsec : Int
  deriving DecidableEq, Repr

/-! ### The environment -/

/-- The collaborators `CurlOps.cc` calls but does not define. -/
structure Env where
  newParser : HeaderParser
  /-- `HeaderParser::Parse`: the parser after one more header line, and whether it parsed. -/
  parse : HeaderParser → String → HeaderParser × Bool
  HTTPStatusIsError : Nat → Bool
  HTTPStatusConvert : Nat → UInt16 × UInt32
  clientCertFile : String
  clientKeyFile : String
  /-- `XMLDocument::Parse` of the buffered body: `none` unless it returns `XML_SUCCESS`. -/
  xmlParse : List UInt8 → Option XMLDocument
  /-- `CURLINFO_EFFECTIVE_URL` of a transfer to a URL, which libcurl normalises. -/
  effectiveUrl : String → String
  calc32C : List UInt8 → UInt32
  /-- `XrdSys::PageSize`, as the `size_t` the page loop computes with. -/
  pageSize : UInt64
  pageSize_pos : 0 < pageSize
  errErrorResponse : UInt16
  errInternal : UInt16
  kXR_ServerError : UInt32
  kXR_FSError : UInt32
  kXR_isDirectory : UInt32

end XrdClPelican
