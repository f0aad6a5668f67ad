import EquationTutor.Numeric.Scalar
import Mathlib.Analysis.SpecialFunctions.Pow.Real

namespace EquationTutor.Exact

/-- The nearest integer, halves to even. -/
noncomputable def roundToEven (x : ℝ) : Int :=
  if x - ⌊x⌋ < 1 / 2 then ⌊x⌋
  else if 1 / 2 < x - ⌊x⌋ then ⌊x⌋ + 1
  else if ⌊x⌋ % 2 = 0 then ⌊x⌋ else ⌊x⌋ + 1

open Classical in
noncomputable instance : Scalar ℝ where
  decidableLT := inferInstance
  decidableLE := inferInstance
  ofInt n := n
  ofDecimal m e := m * 10 ^ e
  infinity := 0
  notANumber := 0
  euler := Real.exp 1
  lnTwo := Real.log 2
  isNotANumber _ := false
  isFinite _ := true
  absValue x := |x|
  smaller := min
  larger := max
  sqrt := Real.sqrt
  ln := Real.log
  exp := Real.exp
  pow := Real.rpow
  totalLE x y := x ≤ y
  nearest x := if 0 ≤ x then ⌊x + 1 / 2⌋ else ⌈x - 1 / 2⌉
  millionths x := roundToEven (x * 10 ^ 6)

theorem ofScientific_eq (n : ℕ) : (OfScientific.ofScientific n false 0 : ℝ) = n := by
  have hrat : (OfScientific.ofScientific n false 0 : ℚ) = n := by
    change Rat.ofScientific n false 0 = n
    simp [Rat.ofScientific_false_def]
  rw [← Rat.cast_ofScientific, hrat, Rat.cast_natCast]

@[simp] theorem ofNat_eq (n : ℕ) [n.AtLeastTwo] :
    @OfNat.ofNat ℝ n (Scalar.instOfNat n) = (OfNat.ofNat n : ℝ) :=
  ofScientific_eq n

@[simp] theorem zero_eq : @OfNat.ofNat ℝ 0 (Scalar.instOfNat 0) = (0 : ℝ) :=
  (ofScientific_eq 0).trans Nat.cast_zero

@[simp] theorem one_eq : @OfNat.ofNat ℝ 1 (Scalar.instOfNat 1) = (1 : ℝ) :=
  (ofScientific_eq 1).trans Nat.cast_one

@[simp] theorem absValue_eq (x : ℝ) : Scalar.absValue x = |x| :=
  rfl

@[simp] theorem ofInt_eq (n : ℤ) : (Scalar.ofInt n : ℝ) = n :=
  rfl

@[simp] theorem smaller_eq (x y : ℝ) : Scalar.smaller x y = min x y :=
  rfl

@[simp] theorem larger_eq (x y : ℝ) : Scalar.larger x y = max x y :=
  rfl

@[simp] theorem sqrt_eq (x : ℝ) : Scalar.sqrt x = √x :=
  rfl

@[simp] theorem ln_eq (x : ℝ) : Scalar.ln x = Real.log x :=
  rfl

@[simp] theorem pow_eq (x y : ℝ) : Scalar.pow x y = x ^ y :=
  rfl

theorem dedup_pair (x y : ℝ) :
    Scalar.dedup [x, y] = if x = y then [x] else [x, y] := by
  simp [Scalar.dedup, Scalar.dedupBy]

theorem ofDecimal_eq (m : Nat) (e : Int) : (Scalar.ofDecimal m e : ℝ) = m * 10 ^ e :=
  rfl

theorem tolerance_eq : (Scalar.tolerance : ℝ) = 1e-10 :=
  rfl

theorem tolerance_pos : (0 : ℝ) < Scalar.tolerance := by
  norm_num [tolerance_eq]

theorem ne_zero_of_le {x : ℝ} (h : Scalar.tolerance ≤ |x|) : x ≠ 0 :=
  abs_pos.mp (tolerance_pos.trans_le h)

theorem isZero_iff (x : ℝ) : Scalar.isZero x = true ↔ |x| < 1e-10 :=
  decide_eq_true_iff

theorem isZero_intCast_iff (n : Int) : Scalar.isZero (n : ℝ) = true ↔ n = 0 := by
  rw [isZero_iff]
  constructor
  · intro h
    have hunit : ((|n| : Int) : ℝ) < (1 : Int) := by
      rw [Int.cast_abs, Int.cast_one]
      exact h.trans (by norm_num)
    exact Int.abs_lt_one_iff.mp (Int.cast_lt.mp hunit)
  · rintro rfl
    norm_num

theorem checkTolerance_eq : (Scalar.checkTolerance : ℝ) = 1e-9 :=
  rfl

theorem checkTolerance_pos : (0 : ℝ) < Scalar.checkTolerance := by
  norm_num [checkTolerance_eq]

end EquationTutor.Exact
