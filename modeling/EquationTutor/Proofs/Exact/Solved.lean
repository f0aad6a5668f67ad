import EquationTutor.Proofs.Exact.QuadraticInequality
import EquationTutor.Proofs.Solution.Answers

namespace EquationTutor.Solve

open Scalar

theorem checkLeading_eq_ok_iff (a : ℝ) (u : Unit) :
    checkLeading a = .ok u ↔ tolerance ≤ |a| := by
  simp only [checkLeading, Exact.absValue_eq]
  split <;> simp_all

theorem lnBase_eq_ok_iff (base ln : ℝ) :
    lnBase base = .ok ln ↔ 0 < base ∧ tolerance ≤ |Real.log base| ∧ Real.log base = ln := by
  have hfinite : isFinite base = true := rfl
  rcases le_or_gt base 0 with hle | hpos
  · simp [lnBase, hle, hle.not_gt]
  · rcases lt_or_ge |Real.log base| tolerance with hsmall | hlarge
    · simp [lnBase, hfinite, hpos.not_ge, isZero, hsmall, hsmall.not_ge]
    · simp [lnBase, hfinite, hpos, hpos.not_ge, isZero, hlarge, hlarge.not_gt]

section Solved

variable {p : Params ℝ} {s : Solution ℝ}

theorem exists_of_solveQuadraticInequality (h : solveQuadraticInequality p = .ok s) :
    ∃ a b c r, tolerance ≤ |a| ∧ s = inequalitySolution a b c r := by
  obtain ⟨a, b, c, r, delta, roots, -, hroots, rfl⟩ := answer_of_solveQuadraticInequality h
  obtain ⟨ha, rfl, rfl⟩ := quadraticRoots_eq_ok_iff.mp hroots
  exact ⟨a, b, c, r, (checkLeading_eq_ok_iff a ()).mp ha, rfl⟩

theorem exists_of_solveLinearInequality (h : solveLinearInequality p = .ok s) :
    ∃ m b c r, s = linearInequality m b c r := by
  obtain ⟨m, b, c, r, -, rfl⟩ := answer_of_solveLinearInequality h
  exact ⟨m, b, c, r, rfl⟩

theorem exists_of_solveExponentialInequality (h : solveExponentialInequality p = .ok s) :
    ∃ k base bound r, k ≠ 0 ∧ 0 < base ∧ Real.log base ≠ 0 ∧
      s = exponentialInequality k base bound (Real.log base) r := by
  obtain ⟨k, base, bound, ln, r, hleading, hln, -, rfl⟩ := answer_of_solveExponentialInequality h
  obtain ⟨hbase, hlarge, rfl⟩ := (lnBase_eq_ok_iff base ln).mp hln
  refine ⟨k, base, bound, r, ?_, hbase, ?_, rfl⟩
  · exact Exact.ne_zero_of_le ((checkLeading_eq_ok_iff k ()).mp hleading)
  · exact Exact.ne_zero_of_le hlarge

end Solved

end EquationTutor.Solve
