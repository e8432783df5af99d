import XrdClPelican.ReadBuffer

/-!
The checksums of a page read. `CurlPgReadOp::Success` counts the pages of the `m_written`
bytes, `ceil(m_written / PageSize)` of them, and walks them with a cursor and a count of the
bytes left: each round checksums `min(PageSize, left)` bytes and moves both on. A round never
takes more than is left, so the count never wraps; round `k` starts at `k * PageSize` with
`m_written - k * PageSize` bytes left, and checksums exactly page `k`.
-/

namespace XrdClPelican

/-! ### The pages of `W` bytes -/

/-- `ceil(W / P)`: the pages of `P` bytes that `W` bytes take. -/
def pageCount (P W : Nat) : Nat := (W + P - 1) / P

/-- Page `k` of `W` bytes in pages of `P`: the positions `[kP, min((k+1)P, W))`. -/
def pagePositions (P W k : Nat) : List Nat := List.range' (k * P) (min ((k + 1) * P) W - k * P)

/-- What a page read should hand over for `W` bytes of `mem`: the checksum of each page. -/
def pageChecksums (E : Env) (mem : Nat → UInt8) (W : Nat) : List UInt32 :=
  (List.range (pageCount E.pageSize.toNat W)).map fun k =>
    E.calc32C ((pagePositions E.pageSize.toNat W k).map mem)

section Pages

variable {P : Nat} (hP : 0 < P)
include hP

lemma lt_pageCount_iff (W k : Nat) : k < pageCount P W ↔ k * P < W := by
  rw [pageCount, Nat.lt_iff_add_one_le, Nat.le_div_iff_mul_le hP, Nat.add_mul, Nat.one_mul]
  omega

lemma pageCount_eq (W : Nat) : pageCount P W = W / P + if W % P ≠ 0 then 1 else 0 := by
  have hr := Nat.mod_lt W hP
  have hsplit : W + P - 1 = P * (W / P) + (W % P + P - 1) := by
    have := Nat.div_add_mod W P; omega
  rw [pageCount, hsplit, Nat.mul_add_div hP]
  split_ifs with h
  · have : (W % P + P - 1) / P = 1 := Nat.div_eq_of_lt_le (by omega) (by omega)
    rw [this]
  · have : (W % P + P - 1) / P = 0 := Nat.div_eq_of_lt (by omega)
    rw [this]

lemma le_pageCount_mul (W : Nat) : W ≤ pageCount P W * P := by
  have := (lt_pageCount_iff hP W (pageCount P W)).not.mp (Nat.lt_irrefl _)
  omega

lemma pagePositions_last_length {W : Nat} (hW : 0 < W) :
    (pagePositions P W (pageCount P W - 1)).length = if W % P = 0 then P else W % P := by
  obtain ⟨k, hk⟩ : ∃ k, pageCount P W = k + 1 :=
    Nat.exists_eq_succ_of_ne_zero (by have := (lt_pageCount_iff hP W 0).mpr (by omega); omega)
  have hlo := (lt_pageCount_iff hP W k).mp (by omega)
  have hhi := le_pageCount_mul hP W
  rw [hk, Nat.add_mul, Nat.one_mul] at hhi
  rw [hk, Nat.add_sub_cancel, pagePositions, List.length_range', Nat.add_mul, Nat.one_mul]
  obtain ⟨d, rfl⟩ : ∃ d, W = d + k * P := ⟨W - k * P, by omega⟩
  rw [Nat.add_mul_mod_self_right]
  by_cases hd : d = P
  · subst hd; rw [Nat.mod_self, if_pos rfl]; omega
  · rw [Nat.mod_eq_of_lt (by omega), if_neg (by omega)]; omega

end Pages

lemma pagePositions_flatten_range (P W : Nat) : ∀ n,
    ((List.range n).map (pagePositions P W)).flatten = List.range' 0 (min (n * P) W)
  | 0 => by simp
  | n + 1 => by
    rw [List.range_succ, List.map_append, List.flatten_append, pagePositions_flatten_range P W n,
      List.map_singleton, List.flatten_singleton, pagePositions, Nat.add_mul, Nat.one_mul]
    by_cases h : n * P ≤ W
    · have happ := List.range'_append_1 0 (n * P) (min (n * P + P) W - n * P)
      rw [Nat.zero_add] at happ
      rw [show min (n * P) W = n * P by omega, happ]
      congr 1; omega
    · rw [show min (n * P + P) W - n * P = 0 by omega, List.range'_zero, List.append_nil]
      congr 1; omega

lemma pagePositions_flatten {P : Nat} (hP : 0 < P) (W : Nat) :
    ((List.range (pageCount P W)).map (pagePositions P W)).flatten = List.range W := by
  rw [pagePositions_flatten_range, Nat.min_eq_right (le_pageCount_mul hP W),
    List.range_eq_range']

/-! ### The loop of `CurlPgReadOp::Success` -/

section Loop

variable (E : Env) (mem : Nat → UInt8)

lemma pgsize_toNat (size : UInt64) :
    (if E.pageSize > size then size else E.pageSize).toNat =
      min E.pageSize.toNat size.toNat := by
  split_ifs with h <;> rw [gt_iff_lt, u64_lt_iff] at h <;> omega

lemma remaining_toNat (size : UInt64) :
    (size - if E.pageSize > size then size else E.pageSize).toNat =
      size.toNat - min E.pageSize.toNat size.toNat := by
  have hle : (if E.pageSize > size then size else E.pageSize) ≤ size := by
    rw [u64_le_iff, pgsize_toNat]; omega
  rw [UInt64.toNat_sub_of_le _ _ hle, pgsize_toNat]

lemma pageLoop_succ (pages buffer : Nat) (size : UInt64) :
    pageLoop E mem (pages + 1) buffer size =
      E.calc32C ((List.range' buffer (min E.pageSize.toNat size.toNat)).map mem) ::
        pageLoop E mem pages (buffer + min E.pageSize.toNat size.toNat)
          (size - if E.pageSize > size then size else E.pageSize) := by
  simp only [pageLoop]
  rw [pgsize_toNat, List.range'_eq_map_range, List.map_map]; rfl

lemma pageLoop_eq (W : Nat) (n : Nat) : ∀ (pg : Nat) (size : UInt64),
    pg + n ≤ pageCount E.pageSize.toNat W → size.toNat = W - pg * E.pageSize.toNat →
    pageLoop E mem n (pg * E.pageSize.toNat) size =
      (List.range' pg n).map fun k => E.calc32C ((pagePositions E.pageSize.toNat W k).map mem) := by
  have hP : 0 < E.pageSize.toNat := E.pageSize_pos
  induction n with
  | zero => intros; rfl
  | succ n ih =>
    intro pg size hn hs
    have hpg := (lt_pageCount_iff hP W pg).mp (by omega)
    rw [pageLoop_succ, List.range'_succ, List.map_cons]
    congr 1
    · rw [pagePositions, hs, Nat.add_mul, Nat.one_mul]
      congr 3; omega
    · cases n with
      | zero => rfl
      | succ m =>
        have hnext := (lt_pageCount_iff hP W (pg + 1)).mp (by omega)
        rw [Nat.add_mul, Nat.one_mul] at hnext
        have hmin : min E.pageSize.toNat size.toNat = E.pageSize.toNat := by omega
        have h := ih (pg + 1) (size - if E.pageSize > size then size else E.pageSize)
          (by omega) (by rw [remaining_toNat, hmin, hs, Nat.add_mul, Nat.one_mul]; omega)
        rwa [hmin, ← Nat.add_one_mul]

lemma pageLoop_pages (size : UInt64) :
    pageLoop E mem (pageCount E.pageSize.toNat size.toNat) 0 size =
      pageChecksums E mem size.toNat := by
  have h := pageLoop_eq E mem size.toNat (pageCount E.pageSize.toNat size.toNat) 0 size
    (by omega) (by omega)
  rwa [Nat.zero_mul, ← List.range_eq_range'] at h

lemma nbpages_toNat (W : UInt64) :
    (W / E.pageSize + if W % E.pageSize ≠ 0 then 1 else 0).toNat =
      pageCount E.pageSize.toNat W.toNat := by
  have hP : 0 < E.pageSize.toNat := E.pageSize_pos
  have hne : (W % E.pageSize ≠ 0) = (W.toNat % E.pageSize.toNat ≠ 0) := by
    rw [ne_eq, u64_eq_iff, UInt64.toNat_mod]; rfl
  have hW : W.toNat < 18446744073709551616 := W.val.isLt
  have hdiv : W.toNat / E.pageSize.toNat ≤ W.toNat := Nat.div_le_self _ _
  rw [pageCount_eq hP, u64_toNat_add, UInt64.toNat_div]
  simp only [hne]
  split_ifs with h
  · -- a last page that is not full: the page size is at least 2, so the sum stays small
    have h2 : 2 ≤ E.pageSize.toNat := by
      by_contra h'
      rw [show E.pageSize.toNat = 1 by omega, Nat.mod_one] at h
      exact h rfl
    have : W.toNat / E.pageSize.toNat ≤ W.toNat / 2 := Nat.div_le_div_left h2 (by norm_num)
    exact Nat.mod_eq_of_lt (by show W.toNat / E.pageSize.toNat + 1 < 18446744073709551616; omega)
  · exact Nat.mod_eq_of_lt (by show W.toNat / E.pageSize.toNat + 0 < 18446744073709551616; omega)

end Loop

/-- **The checksums of a page read.** `CurlPgReadOp::Success` hands over the checksums of the
`ceil(W / P)` pages `[kP, min((k+1)P, W))` of the `W` bytes written. -/
theorem pgRead_checksums (E : Env) (s : Op) (hh : s.handler = true) :
    CurlPgReadOp.success E s = s.setDone.deliver
      ⟨.ok, some (.pageInfo s.op.1 s.written (pageChecksums E s.buffer s.written.toNat))⟩ ∧
    ((List.range (pageCount E.pageSize.toNat s.written.toNat)).map
      (pagePositions E.pageSize.toNat s.written.toNat)).flatten = List.range s.written.toNat ∧
    (0 < s.written.toNat →
      (pagePositions E.pageSize.toNat s.written.toNat
        (pageCount E.pageSize.toNat s.written.toNat - 1)).length =
        if s.written.toNat % E.pageSize.toNat = 0 then E.pageSize.toNat
        else s.written.toNat % E.pageSize.toNat) ∧
    ∀ size : UInt64, (size - if E.pageSize > size then size else E.pageSize).toNat =
      size.toNat - min E.pageSize.toNat size.toNat := by
  have hP : 0 < E.pageSize.toNat := E.pageSize_pos
  refine ⟨?_, pagePositions_flatten hP _, pagePositions_last_length hP, remaining_toNat E⟩
  simp only [CurlPgReadOp.success, Op.setDone_handler, hh, Bool.not_true, Bool.false_eq_true,
    if_false]
  rw [nbpages_toNat, pageLoop_pages]; rfl

def pairEnv : Env :=
  { demoEnv with pageSize := 2, pageSize_pos := by decide, calc32C := fun b => b.length.toUInt32 }

def fivePgRead : Op :=
  { CurlPgReadOp.new 1 demoEnv true "https://origin.example/f" ⟨0, 0⟩ (0, 16) fun _ => 0 with
    written := 5 }

theorem pgRead_checksums_five :
    fivePgRead.handler = true ∧
    CurlPgReadOp.success pairEnv fivePgRead = fivePgRead.setDone.deliver
      ⟨.ok, some (.pageInfo 0 5 (pageChecksums pairEnv fivePgRead.buffer 5))⟩ :=
  ⟨rfl, (pgRead_checksums pairEnv fivePgRead rfl).1⟩

example : (CurlPgReadOp.success pairEnv fivePgRead).trace =
    [.handleResponse ⟨.ok, some (.pageInfo 0 5 [2, 2, 1])⟩] := by
  decide

end XrdClPelican
