import EquationTutor.Proofs.Double.Bounds

open Float.Model Float.Model.UnpackedFloat

namespace EquationTutor.Double

variable {x y : Float}

theorem le_iff (x y : Float) : x ≤ y ↔ x.toModel.unpack.le y.toModel.unpack = true := by
  change decide (x.toModel ≤ y.toModel) = true ↔ _
  exact decide_eq_true_iff

section Finite

variable {m n : Nat} {e f : Int} (hm : 0 < m) (hn : 0 < n)

theorem lt_finite_iff : (UnpackedFloat.finite .positive m e hm).lt (.finite .positive n f hn) =
    true ↔ e < f ∨ e = f ∧ m < n := by
  simp [UnpackedFloat.lt, UnpackedFloat.compare, Ordering.then_eq_lt, Int.compare_eq_lt,
    Nat.compare_eq_lt]

theorem le_finite_iff : (UnpackedFloat.finite .positive m e hm).le (.finite .positive n f hn) =
    true ↔ e < f ∨ e = f ∧ m ≤ n := by
  rcases lt_trichotomy e f with h | rfl | h
  · simp [UnpackedFloat.le, UnpackedFloat.compare, Int.compare_eq_lt.mpr h, h]
  · simp [UnpackedFloat.le, UnpackedFloat.compare, Nat.isLE_compare]
  · simp [UnpackedFloat.le, UnpackedFloat.compare, Int.compare_eq_gt.mpr h, h.not_gt, h.ne']

theorem log2_add_le (hcm : Canonical (.finite .positive m e hm))
    (hcn : Canonical (.finite .positive n f hn)) (h : e < f ∨ e = f ∧ m ≤ n) :
    (m.log2 : Int) + e ≤ n.log2 + f := by
  rcases h with h | ⟨rfl, h⟩
  · have hlog := log2_le hcm.1
    have hmin := hcm.2.1
    have hnormal := log2_of_canonical hcn
    omega
  · have hlog := log2_mono hm.ne' h
    omega

end Finite

section Tolerance

theorem exists_unpack_tolerance_normal :
    ∃ m h, (1e-10 : Float).toModel.unpack = .finite .positive m (-86) h ∧ m.log2 = 52 :=
  ⟨_, _, rfl, by decide⟩

theorem positive_of_tolerance_lt (h : 1e-10 < x) :
    sign? x.toModel.unpack = some .positive ∧ IsAbove (-34) x := by
  obtain ⟨t, ht, htolerance, hlog⟩ := exists_unpack_tolerance_normal
  have hx := canonical_unpack x
  have htcanonical := canonical_unpack 1e-10
  rw [lt_iff, htolerance] at h
  rw [htolerance] at htcanonical
  unfold IsAbove
  revert h hx
  cases x.toModel.unpack with
  | notANumber => simp [UnpackedFloat.lt, UnpackedFloat.compare]
  | zero s => simp [UnpackedFloat.lt, UnpackedFloat.compare]
  | infinity s =>
      cases s with
      | negative => simp [UnpackedFloat.lt, UnpackedFloat.compare]
      | positive => exact fun _ _ => ⟨rfl, trivial⟩
  | finite s m e hm =>
      cases s with
      | negative => simp [UnpackedFloat.lt, UnpackedFloat.compare]
      | positive =>
          intro h hx
          have hlt := (lt_finite_iff ht hm).mp h
          have hle := log2_add_le ht hm htcanonical hx (hlt.imp_right fun h => ⟨h.1, h.2.le⟩)
          refine ⟨rfl, ?_⟩
          change (-34 : Int) ≤ m.log2 + e
          omega

theorem unpack_abs_of_isFinite (hx : x.isFinite = true) :
    x.abs.toModel.unpack = x.toModel.unpack.abs := by
  have hcanonical := canonical_unpack x
  have hbelow := below_of_isFinite hx
  rw [unpack_abs]
  refine repack_of_below ?_ ?_
  · revert hcanonical
    cases x.toModel.unpack <;> exact id
  · revert hbelow
    cases x.toModel.unpack <;> exact id

theorem isAbove_of_not_abs_lt (hx : x.isFinite = true) (h : ¬ x.abs < 1e-10) :
    IsAbove (-34) x := by
  obtain ⟨t, ht, htolerance, hlog⟩ := exists_unpack_tolerance_normal
  have hcanonical := canonical_unpack x
  have htcanonical := canonical_unpack 1e-10
  rw [lt_iff, unpack_abs_of_isFinite hx, htolerance] at h
  rw [htolerance] at htcanonical
  unfold IsAbove
  obtain ⟨s, hx⟩ | ⟨s, m, e, hm, hx⟩ := isFinite_iff.mp hx
  · rw [hx] at h
    exact absurd rfl h
  · rw [hx] at h hcanonical ⊢
    have hlt := mt (lt_finite_iff hm ht).mpr h
    have hle := log2_add_le ht hm htcanonical hcanonical (by omega)
    change (-34 : Int) ≤ m.log2 + e
    omega

theorem tolerance_lt_of_infinity (h : x.toModel.unpack = .infinity .positive) : 1e-10 < x := by
  obtain ⟨t, ht, htolerance, -⟩ := exists_unpack_tolerance_normal
  rw [lt_iff, htolerance, h]
  rfl

theorem not_tolerance_lt (h : x.isFinite = false)
    (hx : x.toModel.unpack ≠ .infinity .positive) : ¬ 1e-10 < x := by
  obtain ⟨t, ht, htolerance, -⟩ := exists_unpack_tolerance_normal
  change x.toModel.unpack.isFinite = false at h
  rw [lt_iff, htolerance]
  revert h hx
  cases x.toModel.unpack with
  | infinity s => cases s <;> simp [UnpackedFloat.lt, UnpackedFloat.compare]
  | _ => simp [UnpackedFloat.isFinite, UnpackedFloat.lt, UnpackedFloat.compare]

theorem not_abs_le_of_not_isFinite (h : x.isFinite = false) : ¬ x.abs ≤ 1e-10 := by
  obtain ⟨t, ht, htolerance, -⟩ := exists_unpack_tolerance_normal
  change x.toModel.unpack.isFinite = false at h
  rw [le_iff, unpack_abs, htolerance]
  revert h
  cases x.toModel.unpack <;>
    simp [UnpackedFloat.isFinite, UnpackedFloat.abs, UnpackedFloat.le, UnpackedFloat.compare]

theorem isFinite_of_abs_lt (h : x.abs < 1e-10) : x.isFinite = true := by
  obtain ⟨t, ht, htolerance, -⟩ := exists_unpack_tolerance_normal
  change x.toModel.unpack.isFinite = true
  rw [lt_iff, unpack_abs, htolerance] at h
  revert h
  cases x.toModel.unpack <;>
    simp [UnpackedFloat.isFinite, UnpackedFloat.abs, UnpackedFloat.lt, UnpackedFloat.compare]

theorem negative_of_not_le (hx : x.isFinite = true) (hlt : ¬ 1e-10 < x) (hle : ¬ x.abs ≤ 1e-10) :
    sign? x.toModel.unpack = some .negative := by
  obtain ⟨t, ht, htolerance, -⟩ := exists_unpack_tolerance_normal
  rw [lt_iff, htolerance] at hlt
  rw [le_iff, unpack_abs_of_isFinite hx, htolerance] at hle
  obtain ⟨s, hx⟩ | ⟨s, m, e, hm, hx⟩ := isFinite_iff.mp hx
  · rw [hx] at hle
    exact absurd rfl hle
  · rw [hx] at hlt hle ⊢
    cases s with
    | negative => rfl
    | positive =>
        have hlt := mt (lt_finite_iff ht hm).mpr hlt
        have hle := mt (le_finite_iff hm ht).mpr hle
        omega

theorem sign_neg_of_not_le (hx : x.isFinite = true) (hlt : ¬ 1e-10 < x)
    (hle : ¬ x.abs ≤ 1e-10) : sign? (-x).toModel.unpack = some .positive := by
  rw [unpack_neg, sign?_repack, sign?_neg, negative_of_not_le hx hlt hle]
  rfl

end Tolerance

section Magnitude

theorem IsBelow.of_abs_le {k : Int} (hy : IsBelow k y) (hx : x.isFinite = true) (h : x.abs ≤ y) :
    IsBelow k x := by
  have hxcanonical := canonical_unpack x
  have hycanonical := canonical_unpack y
  rw [le_iff, unpack_abs_of_isFinite hx] at h
  unfold IsBelow at hy ⊢
  obtain ⟨s, hx⟩ | ⟨s, m, e, hm, hx⟩ := isFinite_iff.mp hx
  · rw [hx]
    trivial
  · rw [hx] at h hxcanonical ⊢
    revert h hy hycanonical
    cases y.toModel.unpack with
    | notANumber => simp [UnpackedFloat.abs, UnpackedFloat.le, UnpackedFloat.compare]
    | infinity t => exact fun hy => hy.elim
    | zero t => simp [UnpackedFloat.abs, UnpackedFloat.le, UnpackedFloat.compare]
    | finite t n f hn =>
        cases t with
        | negative => simp [UnpackedFloat.abs, UnpackedFloat.le, UnpackedFloat.compare]
        | positive =>
            intro hy hycanonical h
            have hle := log2_add_le hm hn hxcanonical hycanonical ((le_finite_iff hm hn).mp h)
            exact lt_of_le_of_lt hle hy

theorem roundHalfUp_le {num den n : Nat} (hden : 0 < den) (h : num ≤ n * den) :
    Binary64.roundHalfUp num den ≤ n := by
  unfold Binary64.roundHalfUp
  rw [← Nat.lt_succ_iff, Nat.div_lt_iff_lt_mul (by omega)]
  calc
    2 * num + den ≤ 2 * (n * den) + den := by omega
    _ < 2 * (n * den) + 2 * den := by omega
    _ = n.succ * (2 * den) := by rw [Nat.succ_mul n, Nat.mul_left_comm]

theorem natAbs_nearest_le {b : Binary64} {k : Nat}
    (h : b.significand = 0 ∨ b.significand.log2 + b.exponent < k) : b.nearest.natAbs ≤ 2 ^ k := by
  have hsigned : b.nearest.natAbs = Binary64.roundHalfUp b.numerator b.denominator := by
    unfold Binary64.nearest Binary64.signed
    split <;> simp
  rw [hsigned]
  refine roundHalfUp_le (Nat.two_pow_pos _) ?_
  unfold Binary64.numerator Binary64.denominator
  rcases h with h | h
  · simp [h]
  · have hlt : b.significand < 2 ^ (b.significand.log2 + 1) := Nat.lt_log2_self
    calc
      b.significand * 2 ^ b.exponent.toNat
          ≤ 2 ^ (b.significand.log2 + 1) * 2 ^ b.exponent.toNat := Nat.mul_le_mul_right _ hlt.le
      _ = 2 ^ (b.significand.log2 + 1 + b.exponent.toNat) := (Nat.pow_add ..).symm
      _ ≤ 2 ^ (k + (-b.exponent).toNat) := Nat.pow_le_pow_right (by decide) (by omega)
      _ = 2 ^ k * 2 ^ (-b.exponent).toNat := Nat.pow_add ..

theorem IsBelow.natAbs_nearest_le {k : Nat} (h : IsBelow k x) :
    (Scalar.nearest x).natAbs ≤ 2 ^ k := by
  change (((Binary64.ofFloat? x).map Binary64.nearest).getD 0).natAbs ≤ 2 ^ k
  rw [ofFloat?_eq_fraction?]
  unfold IsBelow at h
  revert h
  cases x.toModel.unpack with
  | notANumber => simp [fraction?]
  | infinity s => simp [fraction?]
  | zero s => exact fun _ => Double.natAbs_nearest_le (.inl rfl)
  | finite s m e hm => exact fun h => Double.natAbs_nearest_le (.inr h)

end Magnitude

section Zero

theorem sign_of_zero_le (h : 0 ≤ x) :
    sign? x.toModel.unpack = some .positive ∨ ∃ s, x.toModel.unpack = .zero s := by
  have hzero : (0 : Float).toModel.unpack = .zero .positive := rfl
  rw [le_iff, hzero] at h
  revert h
  cases x.toModel.unpack with
  | notANumber => simp [UnpackedFloat.le, UnpackedFloat.compare]
  | zero s => simp
  | infinity s => cases s <;> simp [UnpackedFloat.le, UnpackedFloat.compare]
  | finite s m e hm => cases s <;> simp [UnpackedFloat.le, UnpackedFloat.compare]

theorem sign_of_not_zero_le (hx : x.isNaN = false) (h : ¬ 0 ≤ x) :
    sign? x.toModel.unpack = some .negative := by
  have hzero : (0 : Float).toModel.unpack = .zero .positive := rfl
  rw [le_iff, hzero] at h
  rw [isNaN_eq_false_iff] at hx
  revert h hx
  cases x.toModel.unpack with
  | notANumber => simp
  | zero s => simp [UnpackedFloat.le, UnpackedFloat.compare]
  | infinity s => cases s <;> simp [UnpackedFloat.le, UnpackedFloat.compare]
  | finite s m e hm => cases s <;> simp [UnpackedFloat.le, UnpackedFloat.compare]

theorem lt_zero_iff (hx : x.isNaN = false) : x < 0 ↔ ¬ 0 ≤ x := by
  have hzero : (0 : Float).toModel.unpack = .zero .positive := rfl
  rw [lt_iff, le_iff, hzero]
  rw [isNaN_eq_false_iff] at hx
  revert hx
  cases x.toModel.unpack with
  | notANumber => simp
  | zero s => simp [UnpackedFloat.lt, UnpackedFloat.le, UnpackedFloat.compare]
  | infinity s => cases s <;> simp [UnpackedFloat.lt, UnpackedFloat.le, UnpackedFloat.compare]
  | finite s m e hm => cases s <;> simp [UnpackedFloat.lt, UnpackedFloat.le, UnpackedFloat.compare]

end Zero

section Equality

theorem beq_self_of_isNaN_eq_false (h : x.isNaN = false) : (x == x) = true := by
  rw [Float.beq_self_iff]
  rintro rfl
  cases h

theorem eq_or_zeros_of_beq (h : (x == y) = true) : x = y ∨ x = 0 ∧ y = -0 ∨ x = -0 ∧ y = 0 :=
  (Float.beq_iff_ne_nan_and_eq.mp h).2.2

theorem isFinite_eq_of_beq (h : (x == y) = true) : x.isFinite = y.isFinite := by
  rcases eq_or_zeros_of_beq h with rfl | ⟨rfl, rfl⟩ | ⟨rfl, rfl⟩ <;> rfl

theorem tolerance_lt_iff_of_beq (h : (x == y) = true) : 1e-10 < x ↔ 1e-10 < y := by
  rcases eq_or_zeros_of_beq h with rfl | ⟨rfl, rfl⟩ | ⟨rfl, rfl⟩
  · rfl
  · decide
  · decide

end Equality

section Choice

theorem smaller_eq_or (x y : Float) : smaller x y = x ∨ smaller x y = y := by
  unfold smaller
  split <;> simp

theorem larger_eq_or (x y : Float) : larger x y = x ∨ larger x y = y := by
  unfold larger
  split <;> simp

theorem isFinite_smaller (hx : x.isFinite = true) (hy : y.isFinite = true) :
    (smaller x y).isFinite = true := by
  rcases smaller_eq_or x y with h | h <;> rw [h]
  · exact hx
  · exact hy

theorem isFinite_larger (hx : x.isFinite = true) (hy : y.isFinite = true) :
    (larger x y).isFinite = true := by
  rcases larger_eq_or x y with h | h <;> rw [h]
  · exact hx
  · exact hy

theorem isNaN_smaller_eq_false (hx : x.isNaN = false) : (smaller x y).isNaN = false := by
  unfold smaller
  split
  · exact hx
  · rename_i h
    rw [Bool.or_eq_true, not_or] at h
    exact Bool.eq_false_of_not_eq_true h.1

theorem isNaN_larger_eq_false (hx : x.isNaN = false) : (larger x y).isNaN = false := by
  unfold larger
  split
  · exact hx
  · rename_i h
    rw [Bool.or_eq_true, not_or] at h
    exact Bool.eq_false_of_not_eq_true h.1

theorem choice_of_isNaN (hy : y.isNaN = true) : smaller x y = x ∧ larger x y = x := by
  simp only [smaller, larger, hy, Bool.true_or, if_true, and_self]

variable {t : Sign}

theorem choice_of_negInfinity (hx : x.toModel.unpack = .infinity .negative)
    (hy : y.toModel.unpack = .zero t) : smaller x y = x ∧ larger x y = y := by
  have hnumber : y.isNaN = false := by
    rw [isNaN_eq_false_iff, hy]
    rfl
  have hlt : x < y := by
    rw [lt_iff, hx, hy]
    rfl
  have hgt : ¬ y < x := by
    rw [lt_iff, hx, hy]
    exact Bool.false_ne_true
  simp only [smaller, larger, hnumber, hlt, hgt, Bool.false_or, decide_true, decide_false, if_true,
    Bool.false_eq_true, if_false, and_self]

theorem choice_of_posInfinity (hx : x.toModel.unpack = .infinity .positive)
    (hy : y.toModel.unpack = .zero t) : smaller x y = y ∧ larger x y = x := by
  have hnumber : y.isNaN = false := by
    rw [isNaN_eq_false_iff, hy]
    rfl
  have hlt : ¬ x < y := by
    rw [lt_iff, hx, hy]
    exact Bool.false_ne_true
  have hgt : y < x := by
    rw [lt_iff, hx, hy]
    rfl
  simp only [smaller, larger, hnumber, hlt, hgt, Bool.false_or, decide_true, decide_false, if_true,
    Bool.false_eq_true, if_false, and_self]

end Choice

end EquationTutor.Double
