import EquationTutor.Proofs.Exact.Relations
import EquationTutor.Solve.Quadratic

namespace EquationTutor.Solve

open Scalar

theorem discriminant_eq (a b c : ℝ) : discriminant a b c = b ^ 2 - 4 * a * c := by
  simp only [discriminant, Exact.ofNat_eq]
  ring

theorem quadraticAt_eq (a b c x : ℝ) : quadraticAt a b c x = a * x ^ 2 + b * x + c := by
  simp only [quadraticAt]
  ring

/-- The quadratic as a square less a constant, freed from denominators. -/
theorem mul_quadraticAt (a b c x : ℝ) :
    a * quadraticAt a b c x = (a * x + b / 2) ^ 2 - discriminant a b c / 4 := by
  rw [quadraticAt_eq, discriminant_eq]
  ring

theorem quadraticAt_root {a : ℝ} (ha : a ≠ 0) {b c : ℝ} :
    quadraticAt a b c (-b / (2 * a)) = -discriminant a b c / (4 * a) := by
  rw [quadraticAt_eq, discriminant_eq]
  field_simp
  ring

theorem quadraticRoots_of_le {a : ℝ} (ha : tolerance ≤ |a|) (b c : ℝ) :
    quadraticRoots a b c =
      .ok (discriminant a b c, rootsOf a b c (discriminant a b c)) := by
  have hlarge : ¬ absValue a < tolerance := not_lt.mpr ha
  simp only [quadraticRoots, checkLeading, if_neg hlarge]
  rfl

def coefficientParams (a b c : ℝ) : Params ℝ :=
  ⟨[("a", .number a), ("b", .number b), ("c", .number c)]⟩

theorem quadraticCoefficients_coefficientParams (a b c : ℝ) (kind : Kind) :
    quadraticCoefficients (coefficientParams a b c) kind = .ok (a, b, c) := by
  rfl

noncomputable def formulaSolution (kind : Kind) (a b c : ℝ) : Solution ℝ :=
  let delta := discriminant a b c
  let roots := rootsOf a b c delta
  .plain kind roots.nature.label roots.toSet
    (.quadratic (quadraticDetail a b c delta roots.nature))

theorem solveCoefficients_of_le (kind : Kind) {a : ℝ} (ha : tolerance ≤ |a|) (b c : ℝ) :
    solveCoefficients kind a b c = .ok (formulaSolution kind a b c) := by
  rw [solveCoefficients, quadraticRoots_of_le ha]
  rfl

theorem solveQuadratic_of_le {kind : Kind} {p : Params ℝ} {a b c : ℝ}
    (hcoefficients : quadraticCoefficients p kind = .ok (a, b, c)) (ha : tolerance ≤ |a|) :
    solveQuadratic kind p = .ok (formulaSolution kind a b c) := by
  rw [solveQuadratic, hcoefficients, ← solveCoefficients_of_le kind ha b c]
  rfl

/-- The divisor of the second root: the larger of the two roots of `q² + b q + a c` in size, as
the root of the discriminant is taken with the sign of `b`. -/
noncomputable def rootDivisor (a b c : ℝ) : ℝ :=
  -0.5 * (b + (if 0 ≤ b then 1 else -1) * √(discriminant a b c))

section Divisor

variable {a b c : ℝ} (hdelta : 0 < discriminant a b c)
include hdelta

/-- Nothing cancels in the divisor. -/
theorem rootDivisor_ne_zero : rootDivisor a b c ≠ 0 := by
  have hroot : 0 < √(discriminant a b c) := Real.sqrt_pos.mpr hdelta
  unfold rootDivisor
  split
  · have : 0 < b + 1 * √(discriminant a b c) := by linarith
    norm_num
    linarith
  · have : b + -1 * √(discriminant a b c) < 0 := by linarith
    norm_num
    linarith

theorem rootDivisor_root : rootDivisor a b c ^ 2 + b * rootDivisor a b c + a * c = 0 := by
  obtain ⟨sign, hsign, hq⟩ : ∃ sign : ℝ, sign ^ 2 = 1 ∧
      rootDivisor a b c = -0.5 * (b + sign * √(discriminant a b c)) :=
    ⟨if 0 ≤ b then 1 else -1, by split <;> norm_num, rfl⟩
  have hsquare : √(discriminant a b c) ^ 2 = b ^ 2 - 4 * a * c := by
    rw [Real.sq_sqrt hdelta.le, discriminant_eq]
  rw [hq]
  linear_combination (1 / 4) * √(discriminant a b c) ^ 2 * hsign + (1 / 4) * hsquare

end Divisor

theorem rootsOf_eq_two_divisor {a b c : ℝ} (hdelta : tolerance < discriminant a b c) :
    rootsOf a b c (discriminant a b c) =
      .two (min (rootDivisor a b c / a) (c / rootDivisor a b c))
        (max (rootDivisor a b c / a) (c / rootDivisor a b c)) := by
  simp only [rootsOf, if_pos hdelta, rootDivisor, Exact.one_eq, Exact.zero_eq]
  rfl

theorem rootsOf_of_lt {a b c : ℝ} (ha : a ≠ 0) (hdelta : tolerance < discriminant a b c) :
    ∃ x y, rootsOf a b c (discriminant a b c) = .two x y ∧ x < y ∧
      ∀ t, quadraticAt a b c t = a * (t - x) * (t - y) := by
  have hpos : 0 < discriminant a b c := Exact.tolerance_pos.trans hdelta
  have hq := rootDivisor_ne_zero hpos
  have hroot := rootDivisor_root hpos
  have hroots := rootsOf_eq_two_divisor hdelta
  set q := rootDivisor a b c
  have hsum : q / a + c / q = -b / a := by
    field_simp
    linarith
  have hproduct : q / a * (c / q) = c / a := by
    field_simp
  have hfactor (t : ℝ) : quadraticAt a b c t = a * (t - q / a) * (t - c / q) := by
    calc
      quadraticAt a b c t = a * (t ^ 2 - (-b / a) * t + c / a) := by
        rw [quadraticAt_eq]
        field_simp
        ring
      _ = a * (t ^ 2 - (q / a + c / q) * t + q / a * (c / q)) := by rw [hsum, hproduct]
      _ = a * (t - q / a) * (t - c / q) := by ring
  have hne : q / a ≠ c / q := by
    intro h
    have hsquare : discriminant a b c = a ^ 2 * (q / a - c / q) ^ 2 := by
      calc
        discriminant a b c = a ^ 2 * ((-b / a) ^ 2 - 4 * (c / a)) := by
          rw [discriminant_eq]
          field_simp
        _ = a ^ 2 * ((q / a + c / q) ^ 2 - 4 * (q / a * (c / q))) := by rw [hsum, hproduct]
        _ = a ^ 2 * (q / a - c / q) ^ 2 := by ring
    rw [h, sub_self] at hsquare
    norm_num at hsquare
    linarith
  refine ⟨_, _, hroots, min_lt_max.mpr hne, fun t => ?_⟩
  rw [hfactor]
  rcases le_total (q / a) (c / q) with h | h
  · rw [min_eq_left h, max_eq_right h]
  · rw [min_eq_right h, max_eq_left h]
    ring

theorem coefficients_of_factor {a b c x y : ℝ}
    (h : ∀ t, quadraticAt a b c t = a * (t - x) * (t - y)) :
    b = -a * (x + y) ∧ c = a * (x * y) := by
  have hzero := h 0
  have hone := h 1
  simp only [quadraticAt_eq] at hzero hone
  constructor <;> linarith

theorem rootsOf_of_abs_le {a b c : ℝ} (hdelta : |discriminant a b c| ≤ tolerance) :
    rootsOf a b c (discriminant a b c) = .one (-b / (2 * a)) := by
  have hle : ¬ tolerance < discriminant a b c := not_lt.mpr ((le_abs_self _).trans hdelta)
  have habs : absValue (discriminant a b c) ≤ tolerance := hdelta
  simp only [rootsOf, if_neg hle, if_pos habs, Exact.ofNat_eq]

theorem rootsOf_of_lt_neg {a b c : ℝ} (hdelta : discriminant a b c < -tolerance) :
    rootsOf a b c (discriminant a b c) =
      .complexPair ⟨-b / (2 * a), √(-discriminant a b c) / |2 * a|⟩
        ⟨-b / (2 * a), -(√(-discriminant a b c) / |2 * a|)⟩ := by
  have htol : (0 : ℝ) < tolerance := Exact.tolerance_pos
  have hle : ¬ tolerance < discriminant a b c := by linarith
  have habs : ¬ absValue (discriminant a b c) ≤ tolerance := by
    rw [Exact.absValue_eq, abs_le]
    intro h
    linarith [h.1]
  simp only [rootsOf, if_neg hle, if_neg habs, Exact.ofNat_eq]
  rfl

theorem rootsOf_eq_one_iff {a : ℝ} (ha : a ≠ 0) (b c x : ℝ) :
    rootsOf a b c (discriminant a b c) = .one x ↔
      |discriminant a b c| ≤ tolerance ∧ b = -a * (x + x) := by
  by_cases hsmall : |discriminant a b c| ≤ tolerance
  · rw [rootsOf_of_abs_le hsmall, QuadraticRoots.one.injEq, div_eq_iff (by simpa using ha)]
    refine ⟨fun h => ⟨hsmall, ?_⟩, fun h => ?_⟩ <;> linarith
  · simp only [hsmall, false_and, iff_false]
    rcases lt_abs.mp (not_le.mp hsmall) with hpos | hneg
    · obtain ⟨y, z, hroots, -⟩ := rootsOf_of_lt ha hpos
      simp [hroots]
    · simp [rootsOf_of_lt_neg (by linarith : discriminant a b c < -tolerance)]

theorem rootsOf_eq_two_iff {a : ℝ} (ha : a ≠ 0) (b c x y : ℝ) :
    rootsOf a b c (discriminant a b c) = .two x y ↔
      tolerance < discriminant a b c ∧ x < y ∧ b = -a * (x + y) ∧ c = a * (x * y) := by
  rcases lt_or_ge tolerance (discriminant a b c) with hpos | hle
  · obtain ⟨x', y', hroots, hxy', hf⟩ := rootsOf_of_lt ha hpos
    obtain ⟨hb, hc⟩ := coefficients_of_factor hf
    rw [hroots, QuadraticRoots.two.injEq]
    constructor
    · rintro ⟨rfl, rfl⟩
      exact ⟨hpos, hxy', hb, hc⟩
    · rintro ⟨-, hxy, hb', hc'⟩
      have hsum : x' + y' = x + y :=
        mul_left_cancel₀ (neg_ne_zero.mpr ha) (hb.symm.trans hb')
      have hproduct : x' * y' = x * y := mul_left_cancel₀ ha (hc.symm.trans hc')
      have hroot : (x' - x) * (x' - y) = 0 := by linear_combination x' * hsum - hproduct
      rcases mul_eq_zero.mp hroot with h | h
      · constructor <;> linarith
      · linarith
  · simp only [hle.not_gt, false_and, iff_false]
    rcases lt_or_ge (discriminant a b c) (-tolerance) with hneg | hge
    · simp [rootsOf_of_lt_neg hneg]
    · simp [rootsOf_of_abs_le (abs_le.mpr ⟨hge, hle⟩)]

theorem real_rootsOf_of_lt_neg {a b c : ℝ} (hdelta : discriminant a b c < -tolerance) :
    (rootsOf a b c (discriminant a b c)).real = [] := by
  rw [rootsOf_of_lt_neg hdelta]
  rfl

end EquationTutor.Solve
