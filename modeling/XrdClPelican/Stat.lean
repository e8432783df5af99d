import XrdClPelican.Base

/-!
`CurlStatOp` and `CurlOpenOp`: HEAD or PROPFIND, the buffered PROPFIND body, its decoding by
`GetStatInfo` and `ParseProp`, and the two `Success` methods.

`GetStatInfo` memoizes through the fields `m_length` and `m_is_dir`, which `ParseProp`
overwrites child by child; a `std::stoll` that throws leaves them as far as it got.
-/

namespace XrdClPelican

/-- The bytes curl hands to a write callback, `size * nitems` of them. -/
structure Chunk where
  bytes : List UInt8
  size_lt : bytes.length < 2 ^ 64

def Chunk.size (c : Chunk) : UInt64 := ⟨⟨c.bytes.length, c.size_lt⟩⟩

@[simp] lemma Chunk.toNat_size (c : Chunk) : c.size.toNat = c.bytes.length := rfl

def CurlStatOp.redirect (E : Env) (startErr : Option String) (s : Op) : Op × Bool :=
  let (s, result) := CurlOperation.redirect E startErr s
  if s.isPelican then
    ({ s.setopt (fun h => { h with customRequest := some "PROPFIND" }) with isPropfind := true },
      result)
  else (s.setopt fun h => { h with noBody := true }, result)

def CurlStatOp.setup (curl : Option CurlHandle) (now : Option Timespec) (useX509 : Bool)
    (certKey : String × String) (s : Op) : Except Exc Op := do
  let s ← CurlOperation.setup curl now useX509 certKey s
  let s := s.setopt fun h => { h with
    writeFunction := some .statWriteCallback, writeData := some s.self }
  if s.isOrigin && s.isPelican then
    return { s.setopt (fun h => { h with customRequest := some "PROPFIND" }) with
      isPropfind := true }
  else return s

def CurlStatOp.releaseHandle (s : Op) : Op × Option CurlHandle :=
  match s.curl with
  | none => (s, none)
  | some _ =>
    let s := s.setopt fun h => { h with noBody := false }
    let s := if s.isPropfind then s.setopt fun h => { h with customRequest := none } else s
    let s := s.setopt fun h => { h with writeFunction := none, writeData := none }
    CurlOperation.releaseHandle s

def CurlOpenOp.releaseHandle (s : Op) : Op × Option CurlHandle :=
  CurlStatOp.releaseHandle s.clearBrokerHooks

/-- `CurlStatOp::WriteCallback`; returning less than the chunk's size aborts the transfer. -/
def CurlStatOp.writeCallback (chunk : Chunk) (s : Op) : Op × UInt64 :=
  if s.isPropfind then
    if chunk.size + s.response.length.toUInt64 > 1000000 then (s, 0)
    else ({ s with response := s.response ++ chunk.bytes }, chunk.size)
  else (s, chunk.size)

/-! ### Decoding the PROPFIND body -/

def isContentLength (n : String) : Bool := n == "D:getcontentlength" || n == "lp1:getcontentlength"

def isResourceType (n : String) : Bool := n == "D:resourcetype" || n == "lp1:resourcetype"

/-- The loop of `CurlStatOp::ParseProp` over the children of `prop`, from `child` on. -/
def CurlStatOp.parsePropLoop : List XMLElement → Op → Ret (Int × Bool)
  | [], s => .ok (s.length, s.isDir) s
  | child :: rest, s =>
    if isContentLength child.name then
      match child.text with
      | none => parsePropLoop rest s
      | some len =>
        match stoll len with
        | .error e => .throw e s
        | .ok v => parsePropLoop rest { s with length := v }
    else if isResourceType child.name then
      parsePropLoop rest { s with isDir := child.hasChild "D:collection" }
    else parsePropLoop rest s

def CurlStatOp.parseProp (prop : Option XMLElement) (s : Op) : Ret (Int × Bool) :=
  match prop with
  | none => .ok (-1, false) s
  | some prop => CurlStatOp.parsePropLoop prop.children s

/-- The two nested loops of `GetStatInfo`: the first `D:prop` of a `D:propstat` of `response`. -/
def findProp (response : XMLElement) : Option XMLElement :=
  (response.children.filter (·.name == "D:propstat")).findSome? fun child =>
    child.children.find? (·.name == "D:prop")

def CurlStatOp.getStatInfo (E : Env) (s : Op) : Ret (Int × Bool) :=
  if !s.isPropfind then
    let s := { s with length := s.headers.contentLength }
    .ok (s.length, false) s
  else if s.length ≥ 0 then .ok (s.length, s.isDir) s
  else
  match E.xmlParse s.response with
  | none => .ok (-1, false) s
  | some doc =>
    match doc.root with
    | none => .crash
    | some elem =>
      if elem.name != "D:multistatus" then .ok (-1, false) s
      else
      match elem.children.find? (·.name == "D:response") with
      | none => .ok (-1, false) s
      | some response =>
        match findProp response with
        | some prop => CurlStatOp.parseProp (some prop) s
        | none => .ok (-1, false) s

lemma parsePropLoop_frame (cs : List XMLElement) (s s' : Op)
    (h : (CurlStatOp.parsePropLoop cs s).state = some s') :
    s' = { s with length := s'.length, isDir := s'.isDir } := by
  induction cs generalizing s with
  | nil => cases h; rfl
  | cons c cs ih =>
    simp only [CurlStatOp.parsePropLoop] at h
    split_ifs at h
    · -- a content length, whose text may not parse
      split at h
      · exact (ih _ h :)
      · split at h
        · cases h; rfl
        · exact (ih _ h :)
    all_goals exact (ih _ h :)

lemma getStatInfo_frame (E : Env) (s s' : Op) (h : (CurlStatOp.getStatInfo E s).state = some s') :
    s' = { s with length := s'.length, isDir := s'.isDir } := by
  unfold CurlStatOp.getStatInfo at h
  split_ifs at h
  · cases h; rfl
  · cases h; rfl
  · repeat' split at h
    all_goals first
      | cases h; rfl
      | exact parsePropLoop_frame _ s s' h
      | simp at h

/-! ### Success -/

/-- `CurlStatOp::Success`, with `now` for `time(NULL)`. -/
def CurlStatOp.success (E : Env) (now : Nat) (s : Op) : Ret Unit :=
  (CurlStatOp.getStatInfo E s.setDone).bind fun (size, isdir) s =>
    if size < 0 then
      .ok () (s.fail E.errErrorResponse E.kXR_FSError "Server responded without object size")
    else if !s.handler then .ok () s
    else
      let statInfo : StatInfo := ⟨"nobody", size, true, isdir, now⟩
      let s := if s.dcache && !s.isOrigin && !s.mirrorUrl.isEmpty then
          s.emit (.dcachePut s.mirrorUrl s.mirrorDepth)
        else s
      .ok () (s.deliver ⟨.ok, some (.statInfo statInfo)⟩)

/-- The properties `CurlOpenOp::Success` sets on the `File` before it decodes the stat. -/
def CurlOpenOp.fileProperties (E : Env) (s : Op) : List Effect :=
  (match s.curl.bind (·.url) with
    | some url => [.setProperty "LastURL" (E.effectiveUrl url)]
    | none => []) ++
  (if s.x509Auth then [.setProperty "UseX509Auth" "true"] else []) ++
  (if s.brokerUrl.isEmpty then [] else [.setProperty "BrokerURL" s.brokerUrl])

def CurlOpenOp.setFileProperties (E : Env) (s : Op) : Op :=
  { s with trace := s.trace ++ CurlOpenOp.fileProperties E s }

def CurlOpenOp.success (E : Env) (now : Nat) (s : Op) : Ret Unit :=
  (CurlStatOp.getStatInfo E (CurlOpenOp.setFileProperties E s.setDone)).bind fun (size, isdir) s =>
    if isdir then .ok () (s.fail E.errErrorResponse E.kXR_isDirectory "Cannot open a directory")
    else
      let s := if size ≥ 0 then s.emit (.setProperty "ContentLength" (toString size)) else s
      CurlStatOp.success E now s

end XrdClPelican
