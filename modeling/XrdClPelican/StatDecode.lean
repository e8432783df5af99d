import XrdClPelican.Driver

/-!
Decoding a PROPFIND body. `statOfDocument` reads a multistatus document as its WebDAV shape
describes it: the first `D:response`, its first `D:prop`, the last content length and the last
resource type there. `GetStatInfo`, on a first call, returns that reading whenever it returns,
where a content length is what `std::stoll` makes of its text (`12abc` is 12). It does not
always return: a document without a root element makes it dereference a null pointer, and a
content length that `std::stoll` rejects makes it throw.

A call that returns records its pair in `m_length` and `m_is_dir` so that the next call returns
the same pair, memoized or parsed again (`getStatInfo_again`).
-/

namespace XrdClPelican

/-! ### The reading of a document -/

/-- The value `std::stoll` reads from a text, `-1` when it throws. -/
def stollValue (text : String) : Int :=
  match stoll text with
  | .ok v => v
  | .error _ => -1

/-- `R`, the first `D:response` child of the root. -/
def responseOf (root : XMLElement) : Option XMLElement :=
  (root.children.filter (·.name == "D:response")).head?

/-- `P`, the first `D:prop` child, in document order, of a `D:propstat` child of `R`. -/
def propOf (response : XMLElement) : Option XMLElement :=
  ((response.children.filter (·.name == "D:propstat")).flatMap fun c =>
    c.children.filter (·.name == "D:prop")).head?

def lastSize (cs : List XMLElement) (init : Int) : Int :=
  match (cs.filter fun c => isContentLength c.name && c.text.isSome).getLast? with
  | some c => stollValue (c.text.getD "")
  | none => init

def lastIsDir (cs : List XMLElement) (init : Bool) : Bool :=
  match (cs.filter fun c => isResourceType c.name).getLast? with
  | some c => c.hasChild "D:collection"
  | none => init

/-- The `(size, isdir)` a multistatus document describes. -/
def statOfDocument (doc : XMLDocument) : Int × Bool :=
  match doc.root with
  | none => (-1, false)
  | some root =>
    if root.name != "D:multistatus" then (-1, false)
    else match responseOf root >>= propOf with
      | none => (-1, false)
      | some prop => (lastSize prop.children (-1), lastIsDir prop.children false)

lemma isResourceType_of_isContentLength {n : String} (h : isContentLength n) :
    isResourceType n = false := by
  simp only [isContentLength, Bool.or_eq_true, beq_iff_eq] at h
  rcases h with rfl | rfl <;> rfl

lemma lastSize_cons (c : XMLElement) (cs : List XMLElement) (v : Int) :
    lastSize (c :: cs) v = lastSize cs
      (if isContentLength c.name && c.text.isSome then stollValue (c.text.getD "") else v) := by
  unfold lastSize
  by_cases hc : (isContentLength c.name && c.text.isSome) = true
  · simp only [List.filter_cons, hc, if_true, List.getLast?_cons]
    cases List.getLast? _ <;> rfl
  · simp only [List.filter_cons, hc, Bool.false_eq_true, if_false]

lemma lastIsDir_cons (c : XMLElement) (cs : List XMLElement) (b : Bool) :
    lastIsDir (c :: cs) b = lastIsDir cs
      (if isResourceType c.name then c.hasChild "D:collection" else b) := by
  unfold lastIsDir
  by_cases hc : isResourceType c.name = true
  · simp only [List.filter_cons, hc, if_true, List.getLast?_cons]
    cases List.getLast? _ <;> rfl
  · simp only [List.filter_cons, hc, Bool.false_eq_true, if_false]

@[simp] lemma lastSize_lastSize (cs : List XMLElement) (v : Int) :
    lastSize cs (lastSize cs v) = lastSize cs v := by
  unfold lastSize; split <;> simp_all

@[simp] lemma lastIsDir_lastIsDir (cs : List XMLElement) (b : Bool) :
    lastIsDir cs (lastIsDir cs b) = lastIsDir cs b := by
  unfold lastIsDir; split <;> simp_all

/-! ### `ParseProp` -/

lemma parsePropLoop_eq_ok {cs : List XMLElement} {s s' : Op} {a : Int × Bool}
    (h : CurlStatOp.parsePropLoop cs s = .ok a s') (t : Op) :
    CurlStatOp.parsePropLoop cs t = .ok (lastSize cs t.length, lastIsDir cs t.isDir)
      { t with length := lastSize cs t.length, isDir := lastIsDir cs t.isDir } := by
  induction cs generalizing s t with
  | nil => rfl
  | cons c cs ih =>
    rw [lastSize_cons, lastIsDir_cons]
    simp only [CurlStatOp.parsePropLoop] at h ⊢
    by_cases h₁ : isContentLength c.name
    · -- a content length, which is no resource type
      simp only [h₁, isResourceType_of_isContentLength h₁, if_true, Bool.true_and,
        Bool.false_eq_true, if_false] at h ⊢
      cases ht : c.text with
      | none => simp only [ht] at h ⊢; exact ih h t
      | some len =>
        simp only [ht] at h ⊢
        cases hv : stoll len with
        | error e => simp only [hv] at h; cases h
        | ok v =>
          simp only [hv, stollValue, Option.isSome_some, if_true, Option.getD_some] at h ⊢
          exact ih h _
    · by_cases h₂ : isResourceType c.name
      · simp only [h₁, h₂, if_true, Bool.false_and, Bool.false_eq_true, if_false] at h ⊢
        exact ih h _
      · simp only [h₁, h₂, Bool.false_and, Bool.false_eq_true, if_false] at h ⊢
        exact ih h t

/-! ### `GetStatInfo` -/

def propOfRoot (root : XMLElement) : Option XMLElement :=
  if root.name != "D:multistatus" then none
  else (root.children.find? (·.name == "D:response")).bind findProp

lemma findProp_eq_propOf (response : XMLElement) : findProp response = propOf response := by
  simp only [findProp, propOf, List.head?_flatMap, List.filter_head?]

lemma propOfRoot_eq (root : XMLElement) :
    propOfRoot root =
      if root.name != "D:multistatus" then none else responseOf root >>= propOf := by
  simp only [propOfRoot, responseOf, List.filter_head?, funext findProp_eq_propOf]
  rfl

lemma getStatInfo_of_head (E : Env) (s : Op) (hp : s.isPropfind = false) :
    CurlStatOp.getStatInfo E s =
      .ok (s.headers.contentLength, false) { s with length := s.headers.contentLength } := by
  simp [CurlStatOp.getStatInfo, hp]

lemma getStatInfo_of_memo (E : Env) (s : Op) (hp : s.isPropfind = true) (hl : s.length ≥ 0) :
    CurlStatOp.getStatInfo E s = .ok (s.length, s.isDir) s := by
  simp [CurlStatOp.getStatInfo, hp, hl]

lemma getStatInfo_of_parse (E : Env) (s : Op) (hp : s.isPropfind = true) (hl : s.length < 0) :
    CurlStatOp.getStatInfo E s =
      match E.xmlParse s.response with
      | none => .ok (-1, false) s
      | some doc =>
        match doc.root with
        | none => .crash
        | some root =>
          match propOfRoot root with
          | none => .ok (-1, false) s
          | some prop => CurlStatOp.parsePropLoop prop.children s := by
  simp only [CurlStatOp.getStatInfo, hp, Bool.not_true, Bool.false_eq_true, if_false,
    if_neg (show ¬s.length ≥ 0 by omega)]
  rcases E.xmlParse s.response with _ | ⟨_ | root⟩
  · rfl
  · rfl
  · simp only [propOfRoot]
    split_ifs
    · rfl
    · cases root.children.find? _ with
      | none => rfl
      | some r => simp only [Option.some_bind]; cases findProp r <;> rfl

lemma statOfDocument_eq (doc : XMLDocument) :
    statOfDocument doc =
      match doc.root with
      | none => (-1, false)
      | some root =>
        match propOfRoot root with
        | none => (-1, false)
        | some prop => (lastSize prop.children (-1), lastIsDir prop.children false) := by
  rcases doc with ⟨_ | root⟩
  · rfl
  · simp only [statOfDocument, propOfRoot_eq]; split_ifs <;> rfl

lemma getStatInfo_again {E : Env} {s s' : Op} {a : Int × Bool}
    (h : CurlStatOp.getStatInfo E s = .ok a s') (t : Op) (hp : t.isPropfind = s'.isPropfind)
    (hl : t.length = s'.length) (hd : t.isDir = s'.isDir) (hh : t.headers = s'.headers)
    (hr : t.response = s'.response) : CurlStatOp.getStatInfo E t = .ok a t := by
  have hs := getStatInfo_frame E s s' (by rw [h]; rfl)
  replace hp : t.isPropfind = s.isPropfind := by rw [hp, hs]
  replace hh : t.headers = s.headers := by rw [hh, hs]
  replace hr : t.response = s.response := by rw [hr, hs]
  cases hpf : s.isPropfind
  case false =>
    -- HEAD: the content length of the headers
    rw [getStatInfo_of_head E s hpf, Ret.ok.injEq] at h
    obtain ⟨rfl, rfl⟩ := h
    dsimp only at hl
    have hc : t.headers.contentLength = t.length := by rw [hh, hl]
    rw [getStatInfo_of_head E t (hp.trans hpf), hc, ← hl]
  case true =>
  have hpt : t.isPropfind = true := hp.trans hpf
  by_cases hlen : s.length ≥ 0
  · -- memoized
    rw [getStatInfo_of_memo E s hpf hlen, Ret.ok.injEq] at h
    obtain ⟨rfl, rfl⟩ := h
    rw [getStatInfo_of_memo E t hpt (by omega), hl, hd]
  rw [getStatInfo_of_parse E s hpf (by omega)] at h
  have hparse : t.length < 0 → CurlStatOp.getStatInfo E t = _ := getStatInfo_of_parse E t hpt
  rw [hr] at hparse
  rcases hx : E.xmlParse s.response with _ | doc
  · simp only [hx, Ret.ok.injEq] at h
    obtain ⟨rfl, rfl⟩ := h
    rw [hparse (by omega), hx]
  rcases hroot : doc.root with _ | root
  · simp only [hx, hroot] at h; cases h
  rcases hprop : propOfRoot root with _ | prop
  · simp only [hx, hroot, hprop, Ret.ok.injEq] at h
    obtain ⟨rfl, rfl⟩ := h
    rw [hparse (by omega), hx]
    simp only [hroot, hprop]
  simp only [hx, hroot, hprop] at h
  obtain ⟨rfl, rfl⟩ := (Ret.ok.injEq _ _ _ _).mp ((parsePropLoop_eq_ok h s).symm.trans h)
  dsimp only at hl hd
  by_cases htl : t.length ≥ 0
  · rw [getStatInfo_of_memo E t hpt htl, hl, hd]
  · rw [hparse (by omega), hx]
    simp only [hroot, hprop, parsePropLoop_eq_ok h t, hl, hd, lastSize_lastSize,
      lastIsDir_lastIsDir]
    rw [← hl, ← hd]

/-! ### Bodies to run the model on -/

def docEnv (body : String) (doc : XMLDocument) : Env :=
  { demoEnv with xmlParse := fun r => if r = ascii body then some doc else none }

def propBody (props : String) : String :=
  "<D:multistatus><D:response><D:propstat><D:prop>" ++ props ++
    "</D:prop></D:propstat></D:response></D:multistatus>"

def propDoc (props : List XMLElement) : XMLDocument :=
  ⟨some (.mk "D:multistatus" none [.mk "D:response" none
    [.mk "D:propstat" none [.mk "D:prop" none props]]])⟩

def lengthEnv (len : String) : Env :=
  docEnv (propBody ("<D:getcontentlength>" ++ len ++ "</D:getcontentlength>"))
    (propDoc [.mk "D:getcontentlength" (some len) []])

def lengthChunk (len : String) : Chunk :=
  asciiChunk (propBody ("<D:getcontentlength>" ++ len ++ "</D:getcontentlength>"))

/-- **Decoding.** On a first call, a PROPFIND `GetStatInfo` that returns returns `statOfDocument` of
the parsed body. -/
theorem getStatInfo_eq_statOfDocument (E : Env) (s s' : Op) (doc : XMLDocument) (a : Int × Bool)
    (hp : s.isPropfind = true) (hl : s.length = -1) (hd : s.isDir = false)
    (hx : E.xmlParse s.response = some doc) (h : CurlStatOp.getStatInfo E s = .ok a s') :
    a = statOfDocument doc := by
  rw [getStatInfo_of_parse E s hp (by omega), hx] at h
  rw [statOfDocument_eq]
  rcases hroot : doc.root with _ | root
  · simp only [hroot] at h; cases h
  rcases hprop : propOfRoot root with _ | prop
  · simp only [hroot, hprop, Ret.ok.injEq] at h ⊢
    exact h.1.symm
  · simp only [hroot, hprop] at h ⊢
    have := (parsePropLoop_eq_ok h s).symm.trans h
    simp only [hl, hd, Ret.ok.injEq] at this
    exact this.1.symm

def fileStat : Op :=
  { propfindStat with isPropfind := true, response := (lengthChunk "1024").bytes }

theorem getStatInfo_eq_statOfDocument_file :
    fileStat.isPropfind = true ∧ fileStat.length = -1 ∧ fileStat.isDir = false ∧
      (lengthEnv "1024").xmlParse fileStat.response =
        some (propDoc [.mk "D:getcontentlength" (some "1024") []]) ∧
      CurlStatOp.getStatInfo (lengthEnv "1024") fileStat =
        .ok (1024, false) { fileStat with length := 1024 } ∧
      (1024, false) = statOfDocument (propDoc [.mk "D:getcontentlength" (some "1024") []]) :=
  ⟨rfl, rfl, rfl, rfl, rfl, getStatInfo_eq_statOfDocument (lengthEnv "1024") fileStat
    { fileStat with length := 1024 } _ _ rfl rfl rfl rfl rfl⟩

set_option maxRecDepth 8000 in
/-- A length that is no numeral: `std::stoll` reads its leading digits, and the stat succeeds with
size 12. -/
theorem stat_size_of_numeral_prefix :
    "12abc".toList.all Char.isDigit = false ∧
    (propfindStat.run (lengthEnv "12abc")
        [demoSetup, .write (lengthChunk "12abc"), .success 0]).map (·.trace) =
      some [.handleResponse ⟨.ok, some (.statInfo ⟨"nobody", 12, true, false, 0⟩)⟩] := by
  decide

set_option maxRecDepth 8000 in
/-- **Three ways a PROPFIND `Success` aborts.** A body without a root element is read through a null
pointer, and a length `abc` or of 20 digits makes `std::stoll` throw. -/
theorem propfind_success_aborts :
    (propfindStat.run (docEnv "<?xml version=\"1.0\"?>" ⟨none⟩)
        [demoSetup, .write (asciiChunk "<?xml version=\"1.0\"?>"), .success 0]).isNone = true ∧
    ((propfindStat.run (lengthEnv "abc") [demoSetup, .write (lengthChunk "abc")]).map fun s =>
        (s.step (lengthEnv "abc") (.success 0)).exc) = some (some .invalidArgument) ∧
    ((propfindStat.run (lengthEnv "99999999999999999999")
        [demoSetup, .write (lengthChunk "99999999999999999999")]).map fun s =>
        (s.step (lengthEnv "99999999999999999999") (.success 0)).exc) =
      some (some .outOfRange) := by
  decide

end XrdClPelican
