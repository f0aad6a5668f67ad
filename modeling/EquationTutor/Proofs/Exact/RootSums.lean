import EquationTutor.Proofs.Exact.QuadraticRoots
import Mathlib.Data.Complex.Basic

namespace EquationTutor

def Complex.toNumber (z : Complex ℝ) : ℂ :=
  ⟨z.re, z.im⟩

theorem Complex.toNumber_add_conj (z : Complex ℝ) :
    z.toNumber + z.conj.toNumber = (z.re + z.re : ℝ) := by
  apply Complex.ext <;> simp [toNumber, conj]

theorem Complex.toNumber_mul_conj (z : Complex ℝ) :
    z.toNumber * z.conj.toNumber = (z.re * z.re + z.im * z.im : ℝ) := by
  apply Complex.ext <;> simp [toNumber, conj, mul_comm]

/-- The sum, the product and the midpoint that are recorded are those of two numbers. -/
structure QuadraticDetail.Describes (d : QuadraticDetail ℝ) (u v : ℂ) : Prop where
  sum_eq : (d.sumOfRoots : ℂ) = u + v
  product_eq : (d.productOfRoots : ℂ) = u * v
  axis_eq : (d.axisOfSymmetry : ℂ) = (u + v) / 2

namespace Solve

open Scalar

theorem quadraticRoots_eq_error_iff (a b c : ℝ) :
    (∃ e, quadraticRoots a b c = .error e) ↔ |a| < tolerance := by
  constructor
  · rintro ⟨e, he⟩
    by_contra hlarge
    rw [quadraticRoots_of_le (not_lt.mp hlarge)] at he
    cases he
  · intro hsmall
    have hsmall : absValue a < tolerance := hsmall
    simp only [quadraticRoots, checkLeading, if_pos hsmall]
    exact ⟨_, rfl⟩

section Detail

variable {a b c : ℝ} (delta : ℝ) (nature : RootNature)

theorem describes_of_sum_product {u v : ℂ} (hsum : u + v = (-b / a : ℝ))
    (hproduct : u * v = (c / a : ℝ)) : (quadraticDetail a b c delta nature).Describes u v where
  sum_eq := hsum.symm
  product_eq := hproduct.symm
  axis_eq := by
    have haxis : (quadraticDetail a b c delta nature).axisOfSymmetry = -b / a / 2 := by
      simp only [quadraticDetail, Exact.ofNat_eq]
      rw [div_div, mul_comm]
    rw [haxis, hsum]
    push_cast
    rfl

theorem describes_of_factor (ha : a ≠ 0) {x y : ℝ}
    (h : ∀ t, quadraticAt a b c t = a * (t - x) * (t - y)) :
    (quadraticDetail a b c delta nature).Describes x y := by
  obtain ⟨hb, hc⟩ := coefficients_of_factor h
  refine describes_of_sum_product delta nature ?_ ?_
  · rw [← Complex.ofReal_add, hb]
    congr 1
    field_simp
  · rw [← Complex.ofReal_mul, hc]
    congr 1
    field_simp

end Detail

section ComplexPair

variable {a b c : ℝ} (hdelta : discriminant a b c < -tolerance)
include hdelta

theorem exists_rootsOf_of_lt_neg (ha : a ≠ 0) :
    ∃ z : Complex ℝ, rootsOf a b c (discriminant a b c) = .complexPair z z.conj ∧ 0 < z.im ∧
      z.toNumber + z.conj.toNumber = (-b / a : ℝ) ∧
      z.toNumber * z.conj.toNumber = (c / a : ℝ) := by
  have hneg : 0 < -discriminant a b c := by linarith [Exact.tolerance_pos]
  have hsquare : √(-discriminant a b c) ^ 2 = 4 * a * c - b ^ 2 := by
    rw [Real.sq_sqrt hneg.le, discriminant_eq]
    ring
  refine ⟨⟨-b / (2 * a), √(-discriminant a b c) / |2 * a|⟩, rootsOf_of_lt_neg hdelta, ?_, ?_, ?_⟩
  · exact div_pos (Real.sqrt_pos.mpr hneg) (abs_pos.mpr (by simpa using ha))
  · rw [Complex.toNumber_add_conj]
    congr 1
    field_simp
    ring
  · rw [Complex.toNumber_mul_conj]
    congr 1
    rw [div_mul_div_comm, div_mul_div_comm, abs_mul_abs_self, ← sq √_, hsquare]
    field_simp
    ring

end ComplexPair

/-- The square in the repeated case falls short of the quadratic by a constant within the
tolerance of the discriminant. -/
theorem quadraticAt_of_axis {a : ℝ} (ha : a ≠ 0) (b c t : ℝ) :
    quadraticAt a b c t = a * (t - -b / (2 * a)) ^ 2 - discriminant a b c / (4 * a) := by
  rw [quadraticAt_eq, discriminant_eq]
  field_simp
  ring

/-- Only a leading coefficient that counts as zero is refused. Beyond the tolerance of the
discriminant the roots are exact and described by the detail; within it a root is given that
counts twice. -/
theorem quadraticRoots_exact (a b c : ℝ) :
    ((∃ e, quadraticRoots a b c = .error e) ↔ |a| < 1e-10) ∧
      (1e-10 ≤ |a| → 1e-10 < discriminant a b c → rootDivisor a b c ≠ 0 ∧
        ∃ x y, quadraticRoots a b c = .ok (discriminant a b c, .two x y) ∧
          x = min (rootDivisor a b c / a) (c / rootDivisor a b c) ∧
          y = max (rootDivisor a b c / a) (c / rootDivisor a b c) ∧ x < y ∧
          (∀ t, a * t ^ 2 + b * t + c = a * (t - x) * (t - y)) ∧
          ∀ nature, (quadraticDetail a b c (discriminant a b c) nature).Describes x y) ∧
      (1e-10 ≤ |a| → |discriminant a b c| ≤ 1e-10 →
        ∃ x, quadraticRoots a b c = .ok (discriminant a b c, .one x) ∧
          (∀ t, a * t ^ 2 + b * t + c = a * (t - x) ^ 2 - discriminant a b c / (4 * a)) ∧
          ∀ nature, (quadraticDetail a b c (discriminant a b c) nature).sumOfRoots = x + x ∧
            (quadraticDetail a b c (discriminant a b c) nature).axisOfSymmetry = x) ∧
      (1e-10 ≤ |a| → discriminant a b c < -1e-10 →
        ∃ z, quadraticRoots a b c = .ok (discriminant a b c, .complexPair z z.conj) ∧ 0 < z.im ∧
          z.toNumber + z.conj.toNumber = (-b / a : ℝ) ∧
          z.toNumber * z.conj.toNumber = (c / a : ℝ) ∧
          ∀ nature, (quadraticDetail a b c (discriminant a b c) nature).Describes z.toNumber
            z.conj.toNumber) := by
  have hne (hlarge : 1e-10 ≤ |a|) : a ≠ 0 :=
    abs_pos.mp (Exact.tolerance_pos.trans_le hlarge)
  refine ⟨quadraticRoots_eq_error_iff a b c, ?_, ?_, ?_⟩
  · intro hlarge hdelta
    obtain ⟨x, y, hroots, hxy, hfactor⟩ := rootsOf_of_lt (hne hlarge) hdelta
    have hdivisor := (rootsOf_eq_two_divisor hdelta).symm.trans hroots
    obtain ⟨hx, hy⟩ := QuadraticRoots.two.inj hdivisor
    refine ⟨rootDivisor_ne_zero (Exact.tolerance_pos.trans hdelta), x, y, ?_, hx.symm, hy.symm,
      hxy, fun t => ?_, fun nature => describes_of_factor _ nature (hne hlarge) hfactor⟩
    · rw [quadraticRoots_of_le hlarge, hroots]
    · rw [← hfactor, quadraticAt_eq]
  · intro hlarge hdelta
    refine ⟨-b / (2 * a), ?_, fun t => ?_, fun nature => ⟨?_, ?_⟩⟩
    · rw [quadraticRoots_of_le hlarge, rootsOf_of_abs_le hdelta]
    · rw [← quadraticAt_of_axis (hne hlarge), quadraticAt_eq]
    · have := hne hlarge
      simp only [quadraticDetail]
      field_simp
      ring
    · simp only [quadraticDetail, Exact.ofNat_eq]
  · intro hlarge hdelta
    obtain ⟨z, hroots, him, hsum, hproduct⟩ := exists_rootsOf_of_lt_neg hdelta (hne hlarge)
    refine ⟨z, ?_, him, hsum, hproduct, fun nature => describes_of_sum_product _ nature hsum
      hproduct⟩
    rw [quadraticRoots_of_le hlarge, hroots]

/-- The real roots of `-x² + 4`, in ascending order though the leading coefficient is negative,
and the complex ones of `-x² + 2 x - 5`. -/
theorem quadraticRoots_of_negative_leading :
    (1e-10 ≤ |(-1 : ℝ)| ∧ 1e-10 < discriminant (-1 : ℝ) 0 4 ∧
      ∃ x y : ℝ, quadraticRoots (-1) 0 4 = .ok (discriminant (-1) 0 4, .two x y) ∧ x < y ∧
        ∀ t, -1 * t ^ 2 + 0 * t + 4 = -1 * (t - x) * (t - y)) ∧
    (discriminant (-1 : ℝ) 2 (-5) < -1e-10 ∧
      ∃ z : Complex ℝ, quadraticRoots (-1) 2 (-5) =
        .ok (discriminant (-1) 2 (-5), .complexPair z z.conj) ∧ 0 < z.im ∧
        z.toNumber + z.conj.toNumber = (-2 / -1 : ℝ) ∧
        z.toNumber * z.conj.toNumber = (-5 / -1 : ℝ)) := by
  have hlarge : 1e-10 ≤ |(-1 : ℝ)| := by norm_num
  have hpos : 1e-10 < discriminant (-1 : ℝ) 0 4 := by norm_num [discriminant_eq]
  have hneg : discriminant (-1 : ℝ) 2 (-5) < -1e-10 := by norm_num [discriminant_eq]
  obtain ⟨-, x, y, hroots, -, -, hxy, hfactor, -⟩ :=
    (quadraticRoots_exact (-1) 0 4).2.1 hlarge hpos
  obtain ⟨z, hpair, him, hsum, hproduct, -⟩ :=
    (quadraticRoots_exact (-1) 2 (-5)).2.2.2 hlarge hneg
  exact ⟨⟨hlarge, hpos, x, y, hroots, hxy, hfactor⟩, hneg, z, hpair, him, hsum, hproduct⟩

end Solve

end EquationTutor
