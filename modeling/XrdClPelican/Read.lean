import XrdClPelican.Stat

/-!
`CurlReadOp`, `CurlPgReadOp` and `CurlListdirOp`: the ranged GET, the copy of the body into
the caller's buffer, the page checksums, and the PROPFIND listing.

All arithmetic on `m_op`, `m_written` and the page loop is `uint64_t`, so it is `UInt64` here;
a copy into the buffer is a `memcpy` effect at `m_buffer + m_written`.
-/

namespace XrdClPelican

def CurlReadOp.write (E : Env) (chunk : Chunk) (s : Op) : Op × UInt64 :=
  if s.headers.multipartByterange then
    (CurlReadOp.fail E.errErrorResponse E.kXR_ServerError
      "Server responded with a multipart byterange which is not supported" s, 0)
  else if s.written = 0 ∧ s.headers.offset ≠ s.op.1 then
    (CurlReadOp.fail E.errErrorResponse E.kXR_ServerError
      "Server did not return content with correct offset" s, 0)
  else if s.written + chunk.size > s.op.2 then
    (CurlReadOp.fail E.errErrorResponse E.kXR_ServerError
      "Server sent back more data than requested" s, 0)
  else
    ({ s.emit (.memcpy s.written.toNat chunk.bytes) with written := s.written + chunk.size },
      chunk.size)

def CurlReadOp.success (s : Op) : Op :=
  s.setDone.deliver ⟨.ok, some (.chunkInfo s.op.1 s.written)⟩

/-- The caller's memory after the copies recorded in a trace. -/
def applyCopies : List Effect → (Nat → UInt8) → Nat → UInt8
  | [], m => m
  | .memcpy dst bytes :: es, m =>
    applyCopies es fun i => if dst ≤ i ∧ i < dst + bytes.length then bytes.getD (i - dst) 0 else m i
  | _ :: es, m => applyCopies es m

/-- The memory at `m_buffer`. -/
def Op.buffer (s : Op) : Nat → UInt8 := applyCopies s.trace s.callerBuffer

/-- The loop of `CurlPgReadOp::Success`, from page `pg` on. -/
def pageLoop (E : Env) (mem : Nat → UInt8) : (pages : Nat) → (buffer : Nat) → (size : UInt64) →
    List UInt32
  | 0, _, _ => []
  | pages + 1, buffer, size =>
    let pgsize := if E.pageSize > size then size else E.pageSize
    E.calc32C ((List.range pgsize.toNat).map fun i => mem (buffer + i)) ::
      pageLoop E mem pages (buffer + pgsize.toNat) (size - pgsize)

def CurlPgReadOp.success (E : Env) (s : Op) : Op :=
  let s := s.setDone
  if !s.handler then s
  else
    let nbpages := s.written / E.pageSize + (if s.written % E.pageSize ≠ 0 then 1 else 0)
    let cksums := pageLoop E s.buffer nbpages.toNat 0 s.written
    s.deliver ⟨.ok, some (.pageInfo s.op.1 s.written cksums)⟩

def CurlReadOp.virtualSuccess (E : Env) (s : Op) : Op :=
  if s.kind = .pgReadOp then CurlPgReadOp.success E s else CurlReadOp.success s

@[simp] lemma CurlReadOp.virtualSuccess_curl (E : Env) (s : Op) :
    (CurlReadOp.virtualSuccess E s).curl = s.curl := by
  unfold CurlReadOp.virtualSuccess CurlPgReadOp.success; dsimp only; split_ifs <;> rfl

def CurlReadOp.setup (E : Env) (curl : Option CurlHandle) (now : Option Timespec)
    (useX509 : Bool) (certKey : String × String) (s : Op) : Ret Unit :=
  match CurlOperation.setup curl now useX509 certKey s with
  | .error e => .throw e s
  | .ok s =>
    let s := s.setopt fun h => { h with
      writeFunction := some .readWriteCallback, writeData := some s.self }
    if s.op.2 = 0 then .ok () (CurlReadOp.virtualSuccess E s)
    else
      let rangeReq :=
        "Range: bytes=" ++ toString s.op.1 ++ "-" ++ toString (s.op.1 + s.op.2 - 1)
      let s := { s with headerList := s.headerList ++ [rangeReq] }
      .ok () (s.setopt fun h => { h with httpHeader := some s.headerList })

def CurlReadOp.releaseHandle (s : Op) : Op × Option CurlHandle :=
  match s.curl with
  | none => (s, none)
  | some _ =>
    let s := s.setopt fun h => { h with
      writeFunction := none, writeData := none, httpHeader := none }
    let s := s.clearBrokerHooks
    CurlOperation.releaseHandle { s with headerList := [] }

/-! ### Listing -/

def CurlListdirOp.setup (curl : Option CurlHandle) (now : Option Timespec) (useX509 : Bool)
    (certKey : String × String) (s : Op) : Except Exc Op := do
  let s ← CurlOperation.setup curl now useX509 certKey s
  let s := s.setopt fun h => { h with
    writeFunction := some .listdirWriteCallback, writeData := some s.self,
    customRequest := some "PROPFIND" }
  let s := { s with headerList := s.headerList ++ ["Depth: 1"] }
  return s.setopt fun h => { h with httpHeader := some s.headerList }

def CurlListdirOp.releaseHandle (s : Op) : Op × Option CurlHandle :=
  match s.curl with
  | none => (s, none)
  | some _ =>
    let s := s.setopt fun h => { h with
      writeFunction := none, writeData := none, customRequest := none, httpHeader := none }
    CurlOperation.releaseHandle { s with headerList := [] }

def CurlListdirOp.writeCallback (chunk : Chunk) (s : Op) : Op × UInt64 :=
  if chunk.size + s.response.length.toUInt64 > 10000000 then (s, 0)
  else ({ s with response := s.response ++ chunk.bytes }, chunk.size)

/-- Modelled from the spec, as `CurlListdirOp::Success` is not in `CurlOps.cc`: the operation is
done, and delivers the raw, size-bounded response text. -/
def CurlListdirOp.success (s : Op) : Op :=
  s.setDone.deliver ⟨.ok, some (.listing s.response)⟩

end XrdClPelican
