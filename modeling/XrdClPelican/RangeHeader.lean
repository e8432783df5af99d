import XrdClPelican.ReadBuffer
import Mathlib.Data.Nat.Digits

/-!
The `Range` header of a read. `CurlReadOp::Setup` writes `bytes=<offset>-<offset+length-1>`
with `std::to_string`, the end computed in `uint64_t`; a server reads the two numerals back.
They read back as written (`readByteRange_range`), so the header names exactly the `length`
bytes from `offset` whenever `offset + length - 1` fits in 64 bits. When it does not, the end
wraps, and the header names a range that ends before it starts.
-/

namespace XrdClPelican

/-! ### Reading the header back -/

def readNumeral (cs : List Char) : Option Nat :=
  if cs ≠ [] ∧ cs.all Char.isDigit then some (digitsValue cs) else none

/-- The positions of a `Range: bytes=<first>-<last>` line, read as a server reads them. -/
def readByteRange (line : String) : Option (Nat × Nat) :=
  let pre := "Range: bytes=".toList
  if pre.isPrefixOf line.toList then
    let body := line.toList.drop pre.length
    match body.dropWhile Char.isDigit with
    | '-' :: last =>
      (readNumeral (body.takeWhile Char.isDigit)).bind fun first =>
        (readNumeral last).map fun last => (first, last)
    | _ => none
  else none

/-! ### `std::to_string` of a number -/

lemma toDigitsCore_append (fuel n : Nat) (ds : List Char) :
    Nat.toDigitsCore 10 fuel n ds = Nat.toDigitsCore 10 fuel n [] ++ ds := by
  induction fuel generalizing n ds with
  | zero => rfl
  | succ fuel ih =>
    simp only [Nat.toDigitsCore]
    split_ifs
    · rfl
    · rw [ih (n / 10) (_ :: ds), ih (n / 10) [_], List.append_assoc]; rfl

lemma toDigitsCore_fuel (f₁ f₂ n : Nat) (ds : List Char) (h₁ : n < f₁) (h₂ : n < f₂) :
    Nat.toDigitsCore 10 f₁ n ds = Nat.toDigitsCore 10 f₂ n ds := by
  induction f₁ generalizing f₂ n ds with
  | zero => omega
  | succ f ih =>
    cases f₂ with
    | zero => omega
    | succ g =>
      simp only [Nat.toDigitsCore]
      split_ifs
      · rfl
      · exact ih g (n / 10) _ (by omega) (by omega)

lemma toDigits_eq (n : Nat) : Nat.toDigits 10 n =
    if n < 10 then [Nat.digitChar n]
    else Nat.toDigits 10 (n / 10) ++ [Nat.digitChar (n % 10)] := by
  rw [Nat.toDigits, Nat.toDigitsCore]
  by_cases h : n < 10
  · rw [if_pos (by omega), if_pos h, Nat.mod_eq_of_lt h]
  · rw [if_neg (by omega), if_neg h, toDigitsCore_append, Nat.toDigits,
      toDigitsCore_fuel n (n / 10 + 1) (n / 10) [] (by omega) (by omega)]

lemma digitChar_digit : ∀ m, m < 10 →
    (Nat.digitChar m).isDigit = true ∧ (Nat.digitChar m).toNat - '0'.toNat = m := by
  decide

lemma digitsValue_append_digit (cs : List Char) (c : Char) :
    digitsValue (cs ++ [c]) = 10 * digitsValue cs + (c.toNat - '0'.toNat) := by
  rw [digitsValue, digitsValue, List.foldl_append]; rfl

lemma toDigits_numeral (n : Nat) : Nat.toDigits 10 n ≠ [] ∧
    (Nat.toDigits 10 n).all Char.isDigit = true ∧ digitsValue (Nat.toDigits 10 n) = n := by
  induction n using Nat.strong_induction_on with
  | _ n ih =>
    rw [toDigits_eq]
    split_ifs with h
    · obtain ⟨hd, hv⟩ := digitChar_digit n h
      exact ⟨List.cons_ne_nil _ _, by simp [hd], by simpa [digitsValue] using hv⟩
    · obtain ⟨-, ha, hv⟩ := ih (n / 10) (by omega)
      obtain ⟨hd, hv'⟩ := digitChar_digit (n % 10) (Nat.mod_lt _ (by norm_num))
      refine ⟨by simp, by simp [ha, hd], ?_⟩
      rw [digitsValue_append_digit, hv, hv']
      omega

lemma readNumeral_toDigits (n : Nat) : readNumeral (Nat.toDigits 10 n) = some n := by
  obtain ⟨hne, hall, hv⟩ := toDigits_numeral n
  rw [readNumeral, if_pos ⟨hne, hall⟩, hv]

lemma readByteRange_range (a b : Nat) :
    readByteRange ("Range: bytes=" ++ toString a ++ "-" ++ toString b) = some (a, b) := by
  obtain ⟨-, ha, -⟩ := toDigits_numeral a
  have hall : ∀ c ∈ Nat.toDigits 10 a, c.isDigit = true := List.all_eq_true.mp ha
  have hline : ("Range: bytes=" ++ toString a ++ "-" ++ toString b).toList =
      "Range: bytes=".toList ++ (Nat.toDigits 10 a ++ '-' :: Nat.toDigits 10 b) := by
    simp only [String.toList, String.data_append, List.append_assoc]; rfl
  have hdash : Char.isDigit '-' = false := by decide
  simp only [readByteRange, hline, List.drop_left, List.dropWhile_append_of_pos hall,
    List.takeWhile_append_of_pos hall, List.dropWhile_cons, List.takeWhile_cons, hdash,
    Bool.false_eq_true, if_false, List.append_nil, readNumeral_toDigits, Option.some_bind,
    Option.map_some', List.isPrefixOf_iff_prefix, List.prefix_append, if_true]

/-! ### The header `Setup` sends -/

lemma setup_rangeHeader (E : Env) (s : Op) (hk : s.kind.isRead = true) (hl : s.op.2 ≠ 0)
    (h : CurlHandle) (now : Timespec) (useX509 : Bool) (certKey : String × String) :
    ∃ s', s.setup E (some h) (some now) useX509 certKey = .ok () s' ∧
      s'.headerList = s.headerList ++
        ["Range: bytes=" ++ toString s.op.1 ++ "-" ++ toString (s.op.1 + s.op.2 - 1)] ∧
      s'.curl.bind CurlHandle.httpHeader = some s'.headerList := by
  obtain ⟨c, t, x, b, hs, -⟩ := setup_spec s useX509 certKey h now
  cases hkind : s.kind <;> simp only [hkind, Kind.isRead, Bool.false_eq_true] at hk
  all_goals
    simp only [Op.setup, hkind, CurlReadOp.setup, hs, Op.setopt]
    rw [if_neg hl]
    exact ⟨_, rfl, rfl, rfl⟩

lemma rangeEnd_toNat (o l : UInt64) (hl : l ≠ 0) (hw : o.toNat + l.toNat ≤ 2 ^ 64) :
    (o + l - 1).toNat = o.toNat + l.toNat - 1 := by
  have hl' : l.toNat ≠ 0 := fun h => hl ((u64_eq_iff _ _).mpr h)
  have hsize : UInt64.size = 18446744073709551616 := rfl
  by_cases hs : o.toNat + l.toNat = 2 ^ 64
  · -- the sum wraps to `0`, and `0 - 1` back to the last position
    have h0 : o + l = 0 := (u64_eq_iff _ _).mpr (by rw [u64_toNat_add, hs]; rfl)
    rw [h0, hs]; rfl
  · have hsum : (o + l).toNat = o.toNat + l.toNat := by rw [u64_toNat_add, hsize]; omega
    rw [UInt64.toNat_sub_of_le _ _ (by rw [u64_le_iff, hsum]; show 1 ≤ _; omega), hsum]; rfl

/-- **The Range header names the bytes requested.** When `offset + length - 1` fits in 64 bits, the
line `Setup` adds reads back as `bytes=offset-(offset + length - 1)`. -/
theorem range_header_names_request (E : Env) (s : Op) (hk : s.kind.isRead = true)
    (hl : s.op.2 ≠ 0) (hw : s.op.1.toNat + s.op.2.toNat ≤ 2 ^ 64) (h : CurlHandle)
    (now : Timespec) (useX509 : Bool) (certKey : String × String) :
    ∃ s' line, s.setup E (some h) (some now) useX509 certKey = .ok () s' ∧
      s'.headerList = s.headerList ++ [line] ∧
      s'.curl.bind CurlHandle.httpHeader = some s'.headerList ∧
      readByteRange line = some (s.op.1.toNat, s.op.1.toNat + s.op.2.toNat - 1) := by
  obtain ⟨s', hs, hh, hc⟩ := setup_rangeHeader E s hk hl h now useX509 certKey
  refine ⟨s', _, hs, hh, hc, ?_⟩
  rw [← rangeEnd_toNat _ _ hl hw]
  exact readByteRange_range _ _

def midRead : Op :=
  CurlReadOp.new 1 demoEnv true "https://origin.example/f" ⟨0, 0⟩ (4096, 16) fun _ => 0

theorem range_header_names_request_mid :
    midRead.kind.isRead = true ∧ midRead.op.2 ≠ 0 ∧
    midRead.op.1.toNat + midRead.op.2.toNat ≤ 2 ^ 64 ∧
    ∃ s' line, midRead.setup demoEnv (some CurlHandle.fresh) (some ⟨100, 0⟩) false ("", "") =
        .ok () s' ∧ s'.headerList = midRead.headerList ++ [line] ∧
      s'.curl.bind CurlHandle.httpHeader = some s'.headerList ∧
      readByteRange line = some (4096, 4111) :=
  have hl : midRead.op.2 ≠ 0 := by decide
  have hw : midRead.op.1.toNat + midRead.op.2.toNat ≤ 2 ^ 64 := by decide
  ⟨rfl, hl, hw, range_header_names_request demoEnv midRead rfl hl hw CurlHandle.fresh ⟨100, 0⟩
    false ("", "")⟩

def lastOffsetRead : Op :=
  CurlReadOp.new 1 demoEnv true "https://origin.example/f" ⟨0, 0⟩ (18446744073709551615, 2)
    fun _ => 0

/-- **The end wraps.** For 2 bytes at offset `2^64 - 1`, `Setup` asks for
`bytes=18446744073709551615-0`. -/
theorem range_header_wraps :
    ∃ s', lastOffsetRead.setup demoEnv (some CurlHandle.fresh) (some ⟨100, 0⟩) false ("", "") =
        .ok () s' ∧
      s'.headerList = ["Range: bytes=18446744073709551615-0"] ∧
      readByteRange "Range: bytes=18446744073709551615-0" = some (2 ^ 64 - 1, 0) := by
  obtain ⟨s', hs, hh, -⟩ := setup_rangeHeader demoEnv lastOffsetRead rfl (by decide)
    CurlHandle.fresh ⟨100, 0⟩ false ("", "")
  exact ⟨s', hs, hh.trans (by decide), by decide⟩

end XrdClPelican
