import EquationTutor.Proofs.Double.Overflow

open Float.Model Float.Model.UnpackedFloat

namespace EquationTutor.Double

variable {m : Nat} {e : Int}

section Small

theorem rational_toFloat (hm : m < 2 ^ 53) :
    m.toUInt64.toFloat.isFinite = true ∧ rational m.toUInt64.toFloat = m := by
  have hunpack : m.toUInt64.toFloat.toModel.unpack = ofNatural .positive m := by
    rw [toModel_toFloat hm, unpack_pack_ofNatural _ hm]
  change m.toUInt64.toFloat.toModel.unpack.isFinite = true ∧ _
  rw [rational, hunpack]
  by_cases hzero : m = 0
  · subst hzero
    exact ⟨rfl, rfl⟩
  · have hlog := log2_le hm
    have hexponent : (m.log2 : ℤ) - 52 = -((52 - m.log2 : Nat) : ℤ) := by omega
    rw [ofNatural_of_ne_zero _ hzero]
    refine ⟨rfl, ?_⟩
    rw [rationalOf_positive, hexponent, zpow_neg, zpow_natCast]
    push_cast
    exact mul_inv_cancel_right₀ (by positivity) _

theorem rational_powerOfTen (k : Fin 23) :
    Float.exactlyRepresentablePowersOfTen[k].isFinite = true ∧
      rational Float.exactlyRepresentablePowersOfTen[k] = 10 ^ (k : ℕ) := by
  revert k
  decide +kernel

theorem roundsTo_small {k : Nat} (hm : m < 2 ^ 53) (hk : k ≤ 22) :
    RoundsTo (Float.ofScientific m false k) (m * 10 ^ k) ∧
      RoundsTo (Float.ofScientific m true k) (m / 10 ^ k) := by
  obtain ⟨hfinite, hvalue⟩ := rational_toFloat hm
  obtain ⟨hfinite', hvalue'⟩ := rational_powerOfTen ⟨k, by omega⟩
  have hnonzero : IsNonzero Float.exactlyRepresentablePowersOfTen[(⟨k, by omega⟩ : Fin 23)] := by
    refine isNonzero_of_rational_ne hfinite' ?_
    rw [hvalue']
    positivity
  have hproduct := roundsTo_mul hfinite hfinite'
  have hquotient := roundsTo_div hfinite hnonzero
  rw [hvalue, hvalue'] at hproduct hquotient
  rw [Float.ofScientific, Float.ofScientific, dif_pos ⟨hm, hk⟩, dif_pos ⟨hm, hk⟩]
  exact ⟨hproduct, hquotient⟩

end Small

section Large

variable (hm : 0 < m)

theorem roundsTo_product {x : Float} (k : Nat)
    (hx : x.toModel.unpack = repack (UnpackedFloat.mul .binary64
      (.finite .positive (m * 2 ^ 53) (-53) (Nat.mul_pos hm (Nat.two_pow_pos 53)))
      (.finite .positive (10 ^ k) 0 (Nat.pow_pos (by decide))))) :
    RoundsTo x (m * 10 ^ k) := by
  have hlog : 52 ≤ (m * 2 ^ 53 * 10 ^ k).log2 := by
    have hproduct := log2_mul_le (m := m * 2 ^ 53) (n := 10 ^ k) (by positivity) (by positivity)
    rw [log2_mul_two_pow hm.ne'] at hproduct
    omega
  have hrounding := isRounding_mulParts .positive .positive (e := -53) (f := 0)
    (Nat.mul_pos hm (Nat.two_pow_pos 53)) (n := 10 ^ k) (Nat.pow_pos (by decide)) (.inl hlog)
  have hvalue : rationalOf (.finite .positive (m * 2 ^ 53) (-53)
      (Nat.mul_pos hm (Nat.two_pow_pos 53))) *
      rationalOf (.finite .positive (10 ^ k) 0 (Nat.pow_pos (by decide))) = m * 10 ^ k := by
    rw [rationalOf_positive, rationalOf_positive, zpow_zero, mul_one, zpow_neg]
    push_cast
    rw [mul_inv_cancel_right₀ (by positivity)]
  rw [hvalue] at hrounding
  exact roundsTo_of_unpack (canonical_roundWithAccuracy (.inl hlog))
    (isFinite_roundWithAccuracy _ _ _ _) hrounding hx

theorem roundsTo_quotient {x : Float} (k : Nat)
    (hx : x.toModel.unpack = repack (UnpackedFloat.div .binary64 (.finite .positive m 0 hm)
      (.finite .positive (10 ^ k) 0 (Nat.pow_pos (by decide))))) :
    RoundsTo x (m / 10 ^ k) := by
  have hpower : 0 < 10 ^ k := Nat.pow_pos (by decide)
  have hrounding := isRounding_divParts (u := .finite .positive m 0 hm) rfl
    (t := .positive) (f := 0) hpower
  have hvalue : rationalOf (.finite .positive m 0 hm) /
      rationalOf (.finite .positive (10 ^ k) 0 hpower) = m / 10 ^ k := by
    rw [rationalOf_positive, rationalOf_positive, zpow_zero, mul_one, mul_one]
    push_cast
    rfl
  rw [hvalue] at hrounding
  exact roundsTo_of_unpack (canonical_roundWithAccuracy (divCore_bounds hm.ne' hpower.ne' 0 0).1)
    (isFinite_roundWithAccuracy _ _ _ _) hrounding hx

include hm in
theorem roundsTo_ofModel (hupper : e ≤ 2 ^ 11) (hlower : -(2 ^ 11 + m.log2) ≤ e) :
    RoundsTo (Float.ofModel (Float.Model.ofScientific m e)) (m * 10 ^ e) := by
  have hunpack : (Float.ofModel (Float.Model.ofScientific m e)).toModel.unpack =
      repack (UnpackedFloat.ofScientific .binary64 m e) := rfl
  rw [UnpackedFloat.ofScientific, dif_neg hm.ne', if_neg (not_lt.mpr hupper),
    if_neg (not_lt.mpr hlower)] at hunpack
  rcases le_or_gt 0 e with he | he
  · have hpower : (10 : ℚ) ^ e = 10 ^ e.toNat := by
      rw [← zpow_natCast, Int.toNat_of_nonneg he]
    rw [if_pos he] at hunpack
    simp only [Nat.shiftLeft_eq] at hunpack
    rw [hpower]
    exact roundsTo_product hm e.toNat hunpack
  · have hpower : (m : ℚ) * 10 ^ e = m / 10 ^ (-e).toNat := by
      rw [div_eq_mul_inv, ← zpow_natCast, Int.toNat_of_nonneg (by omega), zpow_neg, inv_inv]
    rw [if_neg (not_le.mpr he)] at hunpack
    rw [hpower]
    exact roundsTo_quotient hm (-e).toNat hunpack

end Large

theorem roundsTo_scientific (hm : 0 < m) (hupper : e ≤ 2 ^ 11) (hlower : -(2 ^ 11 + m.log2) ≤ e) :
    RoundsTo (if e < 0 then Float.ofScientific m true e.natAbs
      else Float.ofScientific m false e.natAbs) (m * 10 ^ e) := by
  rcases lt_or_ge e 0 with he | he
  · rw [if_pos he]
    obtain ⟨k, rfl⟩ : ∃ k : Nat, e = -k := ⟨e.natAbs, by omega⟩
    rw [Int.natAbs_neg, Int.natAbs_natCast]
    by_cases hsmall : m < 2 ^ 53 ∧ k ≤ 22
    · rw [zpow_neg, zpow_natCast, ← div_eq_mul_inv]
      exact (roundsTo_small hsmall.1 hsmall.2).2
    · have hlarge : Float.ofScientific m true k =
          Float.ofModel (Float.Model.ofScientific m (Int.negOfNat k)) := dif_neg hsmall
      rw [hlarge, Int.negOfNat_eq]
      exact roundsTo_ofModel hm hupper hlower
  · rw [if_neg he.not_gt]
    obtain ⟨k, rfl⟩ : ∃ k : Nat, e = k := ⟨e.natAbs, by omega⟩
    rw [Int.natAbs_natCast]
    by_cases hsmall : m < 2 ^ 53 ∧ k ≤ 22
    · rw [zpow_natCast]
      exact (roundsTo_small hsmall.1 hsmall.2).1
    · have hlarge : Float.ofScientific m false k =
          Float.ofModel (Float.Model.ofScientific m k) := dif_neg hsmall
      rw [hlarge]
      exact roundsTo_ofModel hm hupper hlower

section Extremes

variable {q : ℚ}

theorem roundsTo_infinity (h : overflowBound ≤ |q|) : RoundsTo (1 / 0) q := by
  have hinfinite : ¬ (1 / 0 : Float).isFinite = true := by decide +kernel
  refine ⟨by decide +kernel, iff_of_false hinfinite (not_lt.mpr h), ?_⟩
  intro hfinite
  exact absurd hfinite hinfinite

theorem roundsTo_zero (h : |q| ≤ underflowBound) : RoundsTo 0 q := by
  refine ⟨rfl, iff_of_true rfl (h.trans_lt underflowBound_lt), fun _ => ?_⟩
  have hvalue : rational 0 = 0 := rfl
  rw [hvalue]
  refine ⟨representable_zero, fun y hy => ?_, fun _ _ _ _ => isEven_zero⟩
  rw [zero_sub, abs_neg]
  obtain ⟨n, rfl⟩ := hy.exists_units
  rcases eq_or_ne n 0 with rfl | hn
  · simp
  · have hunits : leastUnit ≤ |n * leastUnit| := by
      rw [abs_mul, abs_of_pos leastUnit_pos]
      refine le_mul_of_one_le_left leastUnit_pos.le ?_
      exact_mod_cast Int.one_le_abs hn
    rw [underflowBound] at h
    have htriangle := abs_sub_abs_le_abs_sub (n * leastUnit) q
    linarith

theorem roundsTo_zero_iff : RoundsTo 0 q ↔ |q| ≤ underflowBound := by
  refine ⟨fun h => ?_, roundsTo_zero⟩
  rw [← h.beq_zero_iff]
  rfl

theorem overflowBound_le : overflowBound ≤ 10 ^ (310 : ℤ) := by
  have hpowers : (2 : ℚ) ^ 53 * 2 ^ 971 ≤ 10 ^ 310 := by
    have hnat : 2 ^ 53 * 2 ^ 971 ≤ 10 ^ 310 := by decide +kernel
    exact_mod_cast hnat
  rw [overflowBound, zpow_ofNat, zpow_ofNat]
  refine le_trans ?_ hpowers
  exact mul_le_mul_of_nonneg_right (by norm_num) (by positivity)

theorem le_underflowBound : 10 ^ (-331 : ℤ) ≤ underflowBound := by
  have hpowers : (2 : ℚ) ^ 1075 ≤ 10 ^ 331 := by
    have hnat : 2 ^ 1075 ≤ 10 ^ 331 := by decide +kernel
    exact_mod_cast hnat
  have hunit : underflowBound = 2 ^ (-1075 : ℤ) := by
    rw [underflowBound, leastUnit, div_eq_mul_inv, ← zpow_sub_one₀ two_ne_zero]
    rfl
  rw [hunit, zpow_neg, zpow_neg, zpow_ofNat, zpow_ofNat]
  exact inv_anti₀ (by positivity) hpowers

theorem toDigits_bounds (hm : m ≠ 0) :
    10 ^ ((Nat.toDigits 10 m).length - 1) ≤ m ∧ m < 10 ^ (Nat.toDigits 10 m).length := by
  have hlength : 0 < (Nat.toDigits 10 m).length := List.length_pos_iff.mpr Nat.toDigits_ne_nil
  have hle {k : Nat} (hk : 0 < k) := Nat.length_toDigits_le_iff (b := 10) (n := m) (by decide) hk
  refine ⟨?_, (hle hlength).mp le_rfl⟩
  rcases Nat.eq_zero_or_pos ((Nat.toDigits 10 m).length - 1) with hone | hmore
  · rw [hone, pow_zero]
    omega
  · by_contra hlt
    have := (hle hmore).mpr (not_le.mp hlt)
    omega

theorem mul_zpow_bounds (hm : m ≠ 0) :
    10 ^ ((Nat.toDigits 10 m).length - 1 + e) ≤ (m * 10 ^ e : ℚ) ∧
      (m * 10 ^ e : ℚ) < 10 ^ ((Nat.toDigits 10 m).length + e) := by
  have hlength : 0 < (Nat.toDigits 10 m).length := List.length_pos_iff.mpr Nat.toDigits_ne_nil
  have hpower : (0 : ℚ) < 10 ^ e := zpow_pos (by norm_num) e
  obtain ⟨hlower, hupper⟩ := toDigits_bounds hm
  rw [← Nat.cast_pred hlength, zpow_add₀ (by norm_num), zpow_add₀ (by norm_num), zpow_natCast,
    zpow_natCast]
  refine ⟨mul_le_mul_of_nonneg_right ?_ hpower.le, mul_lt_mul_of_pos_right ?_ hpower⟩
  · exact_mod_cast hlower
  · exact_mod_cast hupper

theorem length_toDigits_le (hm : m ≠ 0) : (Nat.toDigits 10 m).length ≤ m.log2 + 1 := by
  have hlower := (toDigits_bounds hm).1
  have hpowers : 2 ^ ((Nat.toDigits 10 m).length - 1) < 2 ^ (m.log2 + 1) :=
    calc
      2 ^ ((Nat.toDigits 10 m).length - 1) ≤ 10 ^ ((Nat.toDigits 10 m).length - 1) :=
        Nat.pow_le_pow_left (by decide) _
      _ ≤ m := hlower
      _ < 2 ^ (m.log2 + 1) := Nat.lt_log2_self
  have := (Nat.pow_lt_pow_iff_right (by decide)).mp hpowers
  omega

end Extremes

/-- A decimal number is read as the nearest double. -/
theorem roundsTo_ofDecimal (m : Nat) (e : Int) : RoundsTo (ofDecimal m e) (m * 10 ^ e) := by
  rcases Nat.eq_zero_or_pos m with rfl | hm
  · rw [Nat.cast_zero, zero_mul]
    exact roundsTo_zero (by rw [abs_zero, underflowBound]; linarith [leastUnit_pos])
  obtain ⟨hlower, hupper⟩ := mul_zpow_bounds (e := e) hm.ne'
  have hlength := length_toDigits_le hm.ne'
  have habs : |(m * 10 ^ e : ℚ)| = m * 10 ^ e := abs_of_nonneg (by positivity)
  have hpowers {i j : ℤ} (hij : i ≤ j) : (10 : ℚ) ^ i ≤ 10 ^ j :=
    zpow_le_zpow_right₀ (by norm_num) hij
  rw [ofDecimal, if_neg hm.ne']
  by_cases hgreat : 310 < ((Nat.toDigits 10 m).length : ℤ) + e
  · rw [if_pos hgreat]
    refine roundsTo_infinity ?_
    rw [habs]
    calc
      overflowBound ≤ 10 ^ (310 : ℤ) := overflowBound_le
      _ ≤ 10 ^ ((Nat.toDigits 10 m).length - 1 + e) := hpowers (by omega)
      _ ≤ m * 10 ^ e := hlower
  rw [if_neg hgreat]
  by_cases hsmall : ((Nat.toDigits 10 m).length : ℤ) + e < -330
  · rw [if_pos hsmall]
    refine roundsTo_zero ?_
    rw [habs]
    calc
      (m * 10 ^ e : ℚ) ≤ 10 ^ ((Nat.toDigits 10 m).length + e) := hupper.le
      _ ≤ 10 ^ (-331 : ℤ) := hpowers (by omega)
      _ ≤ underflowBound := le_underflowBound
  rw [if_neg hsmall]
  exact roundsTo_scientific hm (by omega) (by omega)

end EquationTutor.Double
