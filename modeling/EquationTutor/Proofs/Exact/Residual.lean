import EquationTutor.Proofs.Exact.QuadraticRoots
import EquationTutor.Proofs.Verification.Sampling
import EquationTutor.Solve.Dispatch

namespace EquationTutor.Solve

open Scalar Verification

theorem passes_formulaSolution_iff (kind : Kind) (a b c : ℝ) :
    Passes (formulaSolution kind a b c) ↔
      ∀ x ∈ (rootsOf a b c (discriminant a b c)).real,
        |quadraticAt a b c x| < checkTolerance := by
  cases hroots : rootsOf a b c (discriminant a b c) <;>
    simp [Passes, checksOf, formulaSolution, Solution.plain, hroots, QuadraticRoots.toSet,
      QuadraticRoots.real, claimOf, claimChecks, quadraticClaim, quadraticDetail,
      near_one_iff]

theorem residuals_small_iff {a : ℝ} (ha : a ≠ 0) (b c : ℝ) :
    (∀ x ∈ (rootsOf a b c (discriminant a b c)).real,
        |quadraticAt a b c x| < checkTolerance) ↔
      (|discriminant a b c| ≤ tolerance →
        |discriminant a b c| < 4 * |a| * checkTolerance) := by
  have htol : (0 : ℝ) < tolerance := Exact.tolerance_pos
  rcases lt_or_ge tolerance |discriminant a b c| with hlarge | hsmall
  · simp only [hlarge.not_ge, false_implies, iff_true]
    rcases lt_abs.mp hlarge with hpos | hneg
    · obtain ⟨x, y, hroots, -, hf⟩ := rootsOf_of_lt ha hpos
      have hx : quadraticAt a b c x = 0 := by rw [hf]; ring
      have hy : quadraticAt a b c y = 0 := by rw [hf]; ring
      simp [hroots, QuadraticRoots.real, hx, hy, Exact.checkTolerance_pos]
    · simp [real_rootsOf_of_lt_neg (by linarith : discriminant a b c < -tolerance)]
  · have hfour : 0 < 4 * |a| := by positivity
    simp only [rootsOf_of_abs_le hsmall, QuadraticRoots.real, hsmall, true_implies,
      List.mem_singleton, forall_eq]
    rw [quadraticAt_root ha, abs_div, abs_neg, abs_mul, abs_of_pos (zero_lt_four : (0 : ℝ) < 4),
      div_lt_iff₀' hfour]

theorem realValues_formulaSolution (kind : Kind) (a b c : ℝ) :
    (formulaSolution kind a b c).set.realValues =
      (rootsOf a b c (discriminant a b c)).real := by
  cases hroots : rootsOf a b c (discriminant a b c) <;>
    simp [formulaSolution, Solution.plain, hroots, QuadraticRoots.toSet,
      QuadraticRoots.real, SolutionSet.realValues]

/-- The roots satisfy the equation within the tolerance of the checks, and so the checks
pass, if and only if a repeated root is not accepted for too small a leading coefficient. -/
theorem solveQuadratic_residuals_iff (kind : Kind) (p : Params ℝ) (a b c : ℝ)
    (hcoefficients : quadraticCoefficients p kind = .ok (a, b, c)) (ha : 1e-10 ≤ |a|) :
    ∃ s, solveQuadratic kind p = .ok s ∧
      ((∀ x ∈ s.set.realValues, |a * x ^ 2 + b * x + c| < 1e-9) ↔
        (|b ^ 2 - 4 * a * c| ≤ 1e-10 → |b ^ 2 - 4 * a * c| < 4 * |a| * 1e-9)) ∧
      (s.verify.allValid = true ↔
        (|b ^ 2 - 4 * a * c| ≤ 1e-10 → |b ^ 2 - 4 * a * c| < 4 * |a| * 1e-9)) := by
  have ha0 : a ≠ 0 := abs_pos.mp (Exact.tolerance_pos.trans_le ha)
  have hiff := residuals_small_iff ha0 b c
  rw [discriminant_eq, Exact.tolerance_eq, Exact.checkTolerance_eq] at hiff
  refine ⟨_, solveQuadratic_of_le hcoefficients ha, ?_, ?_⟩
  · rw [realValues_formulaSolution, discriminant_eq, ← hiff]
    simp only [quadraticAt_eq]
  · rw [Solution.allValid_verify_iff, passes_formulaSolution_iff, discriminant_eq, ← hiff,
      Exact.checkTolerance_eq]

theorem residuals_small_of_x_sq_eq_two :
    quadraticCoefficients (coefficientParams 1 0 (-2)) .standardQuadratic = .ok (1, 0, -2) ∧
      (1e-10 : ℝ) ≤ |1| ∧
      ∃ s, solveQuadratic .standardQuadratic (coefficientParams 1 0 (-2)) = .ok s ∧
        (∀ x ∈ s.set.realValues, |1 * x ^ 2 + 0 * x + -2| < 1e-9) ∧
        s.verify.allValid = true := by
  have hcoefficients := quadraticCoefficients_coefficientParams 1 0 (-2) .standardQuadratic
  have ha : (1e-10 : ℝ) ≤ |1| := by norm_num
  obtain ⟨s, hsolve, hresiduals, hvalid⟩ :=
    solveQuadratic_residuals_iff .standardQuadratic _ 1 0 (-2) hcoefficients ha
  have hdelta : |(0 : ℝ) ^ 2 - 4 * 1 * -2| ≤ 1e-10 →
      |(0 : ℝ) ^ 2 - 4 * 1 * -2| < 4 * |1| * 1e-9 := by
    norm_num
  exact ⟨hcoefficients, ha, s, hsolve, hresiduals.mpr hdelta, hvalid.mpr hdelta⟩

/-- The roots of `x² = 4`, divided by a million, are taken for the repeated root 0. -/
theorem residual_of_scaled_x_sq_eq_four :
    ∃ s, (Problem.ofParams .standardQuadratic (coefficientParams 1e-6 0 (-4e-6))).solve =
        .ok s ∧
      s.set = .discrete [0] ∧ ¬ |(1e-6 : ℝ) * 0 ^ 2 + 0 * 0 + -4e-6| < 1e-9 ∧
      s.verify.allValid = false := by
  have hdelta : |discriminant (1e-6 : ℝ) 0 (-4e-6)| ≤ tolerance := by
    rw [discriminant_eq, Exact.tolerance_eq]
    norm_num
  have hroots : rootsOf (1e-6 : ℝ) 0 (-4e-6) (discriminant 1e-6 0 (-4e-6)) = .one 0 := by
    rw [rootsOf_of_abs_le hdelta]
    norm_num
  have ha : tolerance ≤ |(1e-6 : ℝ)| := by
    rw [Exact.tolerance_eq]
    norm_num
  refine ⟨_, solveQuadratic_of_le (quadraticCoefficients_coefficientParams ..) ha, ?_, ?_, ?_⟩
  · simp [formulaSolution, Solution.plain, hroots, QuadraticRoots.toSet, QuadraticRoots.real]
  · norm_num
  · rw [← Bool.not_eq_true, Solution.allValid_verify_iff, passes_formulaSolution_iff, hroots]
    norm_num [QuadraticRoots.real, quadraticAt_eq, Exact.checkTolerance_eq]

end EquationTutor.Solve
