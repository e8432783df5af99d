import XrdClPelican.StatDecode

/-!
`CurlOpenOp::Success` decides on one call of `GetStatInfo`, then hands over to
`CurlStatOp::Success`, which decides on a second call. By `getStatInfo_again` the second call
returns the pair of the first, so the open's outcome is a function of that one pair: a
directory fails with `kXR_isDirectory`, an unknown size with `kXR_FSError`, and anything else
succeeds with a `StatInfo` whose size is the `ContentLength` property the open recorded.
-/

namespace XrdClPelican

/-- The result an open hands its handler for the decoded stat `(size, isdir)`. -/
def openOutcome (E : Env) (now : Nat) : Int × Bool → Response
  | (_, true) => ⟨.error E.errErrorResponse E.kXR_isDirectory "Cannot open a directory", none⟩
  | (n, false) =>
    if n < 0 then
      ⟨.error E.errErrorResponse E.kXR_FSError "Server responded without object size", none⟩
    else ⟨.ok, some (.statInfo ⟨"nobody", n, true, false, now⟩)⟩

@[simp] lemma fileProperties_setDone (E : Env) (s : Op) :
    CurlOpenOp.fileProperties E s.setDone = CurlOpenOp.fileProperties E s := rfl

lemma trace_curlOperation_fail (c : UInt16) (n : UInt32) (m : String) (s : Op) :
    (CurlOperation.fail c n m s).trace =
      s.trace ++ if s.handler then [.handleResponse ⟨.error c n m, none⟩] else [] := rfl

/-- **The outcome of an open.** When `GetStatInfo` returns `(n, d)`, the open delivers `openOutcome`
of it after the file's properties, and sets `ContentLength` to `n` exactly when it succeeds. -/
theorem openSuccess_outcome (E : Env) (now : Nat) (s s₁ : Op) (n : Int) (d : Bool)
    (hk : s.kind = .openOp) (hh : s.handler = true)
    (hg : CurlStatOp.getStatInfo E (CurlOpenOp.setFileProperties E s.setDone) = .ok (n, d) s₁) :
    CurlStatOp.getStatInfo E s₁ = .ok (n, d) s₁ ∧
    ∃ s' mid, CurlOpenOp.success E now s = .ok () s' ∧ s'.handler = false ∧
      s'.trace = s.trace ++ CurlOpenOp.fileProperties E s ++ mid ++
        [.handleResponse (openOutcome E now (n, d))] ∧
      (∀ v, Effect.setProperty "ContentLength" v ∈ mid ↔ d = false ∧ 0 ≤ n ∧ v = toString n) ∧
      ∀ r, Effect.handleResponse r ∉ mid := by
  have hf := getStatInfo_frame E _ s₁ (by rw [hg]; rfl)
  have hagain := getStatInfo_again hg
  refine ⟨hagain s₁ rfl rfl rfl rfl rfl, ?_⟩
  have hk₁ : s₁.kind.isRead = false := by rw [hf]; show s.kind.isRead = false; rw [hk]; rfl
  have hh₁ : s₁.handler = true := by rw [hf]; exact hh
  have ht₁ : s₁.trace = s.trace ++ CurlOpenOp.fileProperties E s := by rw [hf]; rfl
  simp only [CurlOpenOp.success, hg, Ret.bind_ok]
  cases d with
  | true =>
    refine ⟨_, [], rfl, Op.fail_handler _ _ _ _, ?_, by simp, by simp⟩
    simp [Op.fail_of_not_isRead hk₁, trace_curlOperation_fail, hh₁, ht₁, openOutcome]
  | false =>
    simp only [Bool.false_eq_true, if_false, true_and]
    by_cases hn : 0 ≤ n
    · -- a size: recorded, then delivered
      rw [if_pos hn]
      have hg₂ := hagain (s₁.emit (.setProperty "ContentLength" (toString n))).setDone rfl rfl rfl
        rfl rfl
      simp only [CurlStatOp.success, hg₂, Ret.bind_ok, if_neg (show ¬n < 0 by omega),
        Op.setDone_handler, Op.emit_handler, hh₁, Bool.not_true, Bool.false_eq_true, if_false]
      split_ifs
      · refine ⟨_, [.setProperty "ContentLength" (toString n),
          .dcachePut s₁.mirrorUrl s₁.mirrorDepth], rfl, rfl, ?_, ?_, ?_⟩
          <;> simp [Op.emit, Op.setDone, ht₁, hh₁, openOutcome, hn, show ¬n < 0 by omega]
      · refine ⟨_, [.setProperty "ContentLength" (toString n)], rfl, rfl, ?_, ?_, ?_⟩
          <;> simp [ht₁, hh₁, openOutcome, hn, show ¬n < 0 by omega]
    · -- no size: the stat fails
      rw [if_neg (by omega)]
      have hg₂ := hagain s₁.setDone rfl rfl rfl rfl rfl
      have hneg : n < 0 := by omega
      simp only [CurlStatOp.success, hg₂, Ret.bind_ok, if_pos hneg]
      refine ⟨_, [], rfl, Op.fail_handler _ _ _ _, ?_, by simp [hn], by simp⟩
      simp [Op.fail_of_not_isRead (show s₁.setDone.kind.isRead = false from hk₁),
        trace_curlOperation_fail, hh₁, ht₁, openOutcome, hneg]

def fileOpen : Op :=
  { CurlOpenOp.new 1 demoEnv true "https://origin.example/f" ⟨0, 0⟩ true true false with
    isPropfind := true, response := (lengthChunk "1024").bytes }

theorem openSuccess_outcome_file :
    fileOpen.kind = .openOp ∧ fileOpen.handler = true ∧
    CurlStatOp.getStatInfo (lengthEnv "1024")
        (CurlOpenOp.setFileProperties (lengthEnv "1024") fileOpen.setDone) =
      .ok (1024, false)
        { CurlOpenOp.setFileProperties (lengthEnv "1024") fileOpen.setDone with length := 1024 } ∧
    ∃ s', CurlOpenOp.success (lengthEnv "1024") 0 fileOpen = .ok () s' ∧ s'.handler = false :=
  let ⟨_, s', _, h, hh, _⟩ :=
    openSuccess_outcome (lengthEnv "1024") 0 fileOpen _ 1024 false rfl rfl rfl
  ⟨rfl, rfl, rfl, s', h, hh⟩

end XrdClPelican
