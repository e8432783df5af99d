import XrdClPelican.Calls

/-!
The header timeout. `Setup` stores the deadline `now + timeout` as a `timespec`, carrying whole
seconds out of `tv_nsec` while it is above `10^9`; `HeaderTimeoutExpired` compares a later
reading with it second first, then nanosecond. Both readings and timeout are in normal form,
so `tv_nsec` of the sum is below `2 * 10^9` and one carry is enough; but the loop's `>` leaves a
sum of exactly `10^9` uncarried, and against the deadline `(S, 10^9)` the reading `(S + 1, 0)`,
which is the deadline itself, already counts as past it.
-/

namespace XrdClPelican

def Timespec.toNs (t : Timespec) : Int := t.sec * 1000000000 + t.nsec

/-- A `timespec` in normal form, `0 ≤ tv_nsec < 10^9`, as `clock_gettime` returns it. -/
def Timespec.Normal (t : Timespec) : Prop := 0 ≤ t.nsec ∧ t.nsec < 1000000000

instance : DecidablePred Timespec.Normal := fun t =>
  inferInstanceAs (Decidable (0 ≤ t.nsec ∧ t.nsec < 1000000000))

/-- The timeout `Setup` counts from: the configured one, or `30 s` when it is zero. -/
def effectiveTimeout (T : Timespec) : Timespec :=
  if T.sec = 0 ∧ T.nsec = 0 then ⟨30, 0⟩ else T

lemma effectiveTimeout_normal {T : Timespec} (h : T.Normal) : (effectiveTimeout T).Normal := by
  unfold effectiveTimeout
  split_ifs
  · exact ⟨by decide, by decide⟩
  · exact h

/-! ### The deadline -/

lemma carryLoop_of_le (fuel : Nat) (sec nsec : Int) (h : nsec ≤ 1000000000) :
    carryLoop fuel sec nsec = ⟨sec, nsec⟩ := by
  cases fuel
  · rfl
  · rw [carryLoop, if_neg (by omega)]

lemma normalizeExpiry_eq (sec nsec : Int) (h₀ : 0 ≤ nsec) (h₁ : nsec < 2000000000) :
    normalizeExpiry sec nsec =
      if nsec > 1000000000 then ⟨sec + 1, nsec - 1000000000⟩ else ⟨sec, nsec⟩ := by
  unfold normalizeExpiry
  have hcast := Int.toNat_of_nonneg h₀
  split_ifs with h
  · obtain ⟨k, hk⟩ : ∃ k, nsec.toNat = k + 1 := ⟨nsec.toNat - 1, by omega⟩
    rw [hk, carryLoop, if_pos h, carryLoop_of_le _ _ _ (by omega)]
  · exact carryLoop_of_le _ _ _ (by omega)

lemma deadline_spec (now T : Timespec) (hnow : now.Normal) (hT : T.Normal) :
    (normalizeExpiry (now.sec + T.sec) (now.nsec + T.nsec)).toNs = now.toNs + T.toNs ∧
    0 ≤ (normalizeExpiry (now.sec + T.sec) (now.nsec + T.nsec)).nsec ∧
    (normalizeExpiry (now.sec + T.sec) (now.nsec + T.nsec)).nsec ≤ 1000000000 ∧
    ((normalizeExpiry (now.sec + T.sec) (now.nsec + T.nsec)).nsec = 1000000000 ↔
      now.nsec + T.nsec = 1000000000) := by
  obtain ⟨h₀, h₁⟩ := hnow
  obtain ⟨h₂, h₃⟩ := hT
  rw [normalizeExpiry_eq _ _ (by omega) (by omega)]
  split_ifs <;> simp only [Timespec.toNs, iff_self, and_true] <;> omega

lemma setup_deadline (h : CurlHandle) (now : Timespec) (useX509 : Bool)
    (certKey : String × String) (s s' : Op)
    (hs : CurlOperation.setup (some h) (some now) useX509 certKey s = .ok s') :
    s'.headerTimeout = effectiveTimeout s.headerTimeout ∧
    s'.headerExpiry = normalizeExpiry (now.sec + (effectiveTimeout s.headerTimeout).sec)
      (now.nsec + (effectiveTimeout s.headerTimeout).nsec) ∧
    s'.receivedHeader = s.receivedHeader ∧ s'.error = s.error := by
  unfold CurlOperation.setup at hs
  dsimp only at hs
  generalize hT : (if s.headerTimeout.sec = 0 ∧ s.headerTimeout.nsec = 0 then ⟨30, 0⟩
    else s.headerTimeout : Timespec) = T at hs
  rw [show effectiveTimeout s.headerTimeout = T from hT]
  split_ifs at hs <;> cases hs <;> exact ⟨rfl, rfl, rfl, rfl⟩

/-! ### The check -/

lemma headerTimeoutExpired_iff (s : Op) (t : Timespec) (hr : s.receivedHeader = false)
    (ht : t.Normal) (hD₀ : 0 ≤ s.headerExpiry.nsec) (hD₁ : s.headerExpiry.nsec ≤ 1000000000) :
    ((CurlOperation.headerTimeoutExpired (some t) s).2 = true ↔
      s.headerExpiry.toNs < t.toNs ∨
        (s.headerExpiry.nsec = 1000000000 ∧ t.toNs = s.headerExpiry.toNs)) ∧
    (CurlOperation.headerTimeoutExpired (some t) s).1 =
      if (CurlOperation.headerTimeoutExpired (some t) s).2 then
        { s with error := .errHeaderTimeout } else s := by
  unfold CurlOperation.headerTimeoutExpired
  rw [hr]
  refine ⟨?_, rfl⟩
  obtain ⟨h₀, h₁⟩ := ht
  simp only [Bool.false_eq_true, if_false, Bool.or_eq_true, Bool.and_eq_true, decide_eq_true_eq,
    beq_iff_eq, Timespec.toNs, gt_iff_lt]
  omega

/-- **The header deadline.** `Setup` stores a deadline of exactly `now + T`, and before any header
`HeaderTimeoutExpired` fires exactly past it, or at it when `now.tv_nsec + T.tv_nsec = 10^9`. -/
theorem header_deadline (h : CurlHandle) (now t : Timespec) (useX509 : Bool)
    (certKey : String × String) (s s' : Op) (hnow : now.Normal) (hT : s.headerTimeout.Normal)
    (ht : t.Normal) (hr : s.receivedHeader = false)
    (hs : CurlOperation.setup (some h) (some now) useX509 certKey s = .ok s') :
    s'.headerExpiry.toNs = now.toNs + (effectiveTimeout s.headerTimeout).toNs ∧
    (s'.headerExpiry.Normal ↔ now.nsec + (effectiveTimeout s.headerTimeout).nsec ≠ 1000000000) ∧
    ((CurlOperation.headerTimeoutExpired (some t) s').2 = true ↔
      now.toNs + (effectiveTimeout s.headerTimeout).toNs < t.toNs ∨
        (now.nsec + (effectiveTimeout s.headerTimeout).nsec = 1000000000 ∧
          t.toNs = now.toNs + (effectiveTimeout s.headerTimeout).toNs)) ∧
    (CurlOperation.headerTimeoutExpired (some t) s').1 =
      if (CurlOperation.headerTimeoutExpired (some t) s').2 then
        { s' with error := .errHeaderTimeout } else s' := by
  obtain ⟨-, hexp, hrecv, -⟩ := setup_deadline h now useX509 certKey s s' hs
  obtain ⟨hns, h₀, h₁, hcarry⟩ := deadline_spec now _ hnow (effectiveTimeout_normal hT)
  rw [← hexp] at hns h₀ h₁ hcarry
  obtain ⟨hiff, hres⟩ := headerTimeoutExpired_iff s' t (hrecv.trans hr) ht h₀ h₁
  refine ⟨hns, ?_, by rw [hiff, hns, hcarry], hres⟩
  rw [Timespec.Normal, ne_eq, ← hcarry]
  omega

def halfSecondStat : Op :=
  CurlStatOp.new 1 demoEnv true "https://origin.example/f" ⟨29, 500000000⟩ false false false

theorem header_deadline_half :
    (⟨100, 500000000⟩ : Timespec).Normal ∧ halfSecondStat.headerTimeout.Normal ∧
    (⟨130, 500000000⟩ : Timespec).Normal ∧ halfSecondStat.receivedHeader = false ∧
    ∃ s', CurlOperation.setup (some CurlHandle.fresh) (some ⟨100, 500000000⟩) false ("", "")
        halfSecondStat = .ok s' ∧
      ((CurlOperation.headerTimeoutExpired (some ⟨130, 500000000⟩) s').2 = true ↔
        (⟨100, 500000000⟩ : Timespec).toNs + (effectiveTimeout halfSecondStat.headerTimeout).toNs <
          (⟨130, 500000000⟩ : Timespec).toNs ∨
        ((⟨100, 500000000⟩ : Timespec).nsec + (effectiveTimeout halfSecondStat.headerTimeout).nsec =
            1000000000 ∧
          (⟨130, 500000000⟩ : Timespec).toNs =
            (⟨100, 500000000⟩ : Timespec).toNs +
              (effectiveTimeout halfSecondStat.headerTimeout).toNs)) := by
  obtain ⟨c, T, D, b, hs, -⟩ := setup_spec halfSecondStat false ("", "") CurlHandle.fresh
    ⟨100, 500000000⟩
  have hnow : (⟨100, 500000000⟩ : Timespec).Normal := by decide
  have hT : halfSecondStat.headerTimeout.Normal := by decide
  have ht : (⟨130, 500000000⟩ : Timespec).Normal := by decide
  exact ⟨hnow, hT, ht, rfl, _, hs,
    (header_deadline CurlHandle.fresh _ _ false ("", "") halfSecondStat _ hnow hT ht rfl hs).2.2.1⟩

/-- **A deadline of `10^9` ns.** A stat set up at `100.5 s` with a timeout of `29.5 s` already times
out at `130 s`, the deadline itself. -/
theorem header_timeout_at_deadline :
    ∃ s', CurlOperation.setup (some CurlHandle.fresh) (some ⟨100, 500000000⟩) false ("", "")
        halfSecondStat = .ok s' ∧
      s'.headerExpiry = ⟨129, 1000000000⟩ ∧ ¬ s'.headerExpiry.Normal ∧
      (⟨130, 0⟩ : Timespec).toNs =
        (⟨100, 500000000⟩ : Timespec).toNs + halfSecondStat.headerTimeout.toNs ∧
      CurlOperation.headerTimeoutExpired (some ⟨130, 0⟩) s' =
        ({ s' with error := .errHeaderTimeout }, true) := by
  obtain ⟨c, T, D, b, hs, -⟩ := setup_spec halfSecondStat false ("", "") CurlHandle.fresh
    ⟨100, 500000000⟩
  obtain ⟨-, hexp, hrecv, -⟩ := setup_deadline _ _ _ _ _ _ hs
  have hD : D = ⟨129, 1000000000⟩ := hexp.trans (by decide)
  refine ⟨_, hs, hD, ?_, by decide, ?_⟩
  · show ¬ D.Normal
    rw [hD]; decide
  unfold CurlOperation.headerTimeoutExpired
  rw [hrecv, hD]
  rfl

end XrdClPelican
