import EquationTutor.Proofs.Exact.Sets
import EquationTutor.Proofs.Exact.Solved
import EquationTutor.Proofs.Exact.Verdicts

namespace EquationTutor.Solve

open Scalar EquationTutor.Relation

theorem contains_isolatedSet_iff (rhs : ℝ) (r : Relation) (x : ℝ) :
    (isolatedSet rhs r).Contains x ↔ r.Relates x rhs := by
  cases r <;> simp [isolatedSet, SolutionSet.Contains, Interval.contains_iff, Bound.isBelow,
    Bound.isAbove, Relation.Relates]

theorem holdsForPositive_turn {k : ℝ} (hk : k ≠ 0) (r : Relation) :
    holdsForPositive (r.turn k) = true ↔ r.Relates k 0 := by
  rcases lt_or_gt_of_ne hk with hneg | hpos
  · cases r <;> simp [turn, hneg, Relation.flip, holdsForPositive, Relates, hneg.le, hneg.not_gt,
      hneg.not_ge, hk]
  · cases r <;> simp [turn, hpos.not_gt, holdsForPositive, Relates, hpos, hpos.le,
      hpos.not_ge, hk]

section Set

variable {k bound : ℝ} (base ln : ℝ) (r : Relation)

theorem set_of_unreachable (hbound : bound / k ≤ 0) :
    (exponentialInequality k base bound ln r).set =
      if holdsForPositive (r.turn k) = true then .allReals else .empty := by
  by_cases hneg : k < 0 <;>
    simp [exponentialInequality, Solution.plain, turn, hbound, hneg]

theorem set_of_reachable (hbound : 0 < bound / k) :
    (exponentialInequality k base bound ln r).set =
      isolatedSet (Real.log (bound / k) / ln) ((r.turn k).turn ln) := by
  simp [exponentialInequality, Solution.plain, turn, hbound.not_ge]

end Set

section Power

variable {k base bound : ℝ} (hk : k ≠ 0) (hbase : 0 < base) (r : Relation)
include hk hbase

theorem relates_power_of_unreachable (hbound : bound / k ≤ 0) (x : ℝ) :
    r.Relates (k * base ^ x) bound ↔ r.Relates k 0 := by
  have hfactor : (k * base ^ x - bound) * k = k ^ 2 * (base ^ x - bound / k) := by
    field_simp
  have hpower : 0 < base ^ x := Real.rpow_pos_of_pos hbase x
  rw [← relates_sub]
  apply r.relates_zero_congr
  rw [hfactor]
  exact mul_pos (by positivity) (by linarith)

/-- Division by the coefficient and by the logarithm of the base turns the relation round once
for each of them that is negative. -/
theorem relates_isolated_iff (hln : Real.log base ≠ 0) (hbound : 0 < bound / k) (x : ℝ) :
    ((r.turn k).turn (Real.log base)).Relates x (Real.log (bound / k) / Real.log base) ↔
      r.Relates (k * base ^ x) bound := by
  have hlog : Real.log base * (x - Real.log (bound / k) / Real.log base) =
      Real.log (base ^ x) - Real.log (bound / k) := by
    rw [Real.log_rpow hbase]
    field_simp
  rw [relates_turn _ hln, hlog, relates_sub, relates_log _ (Real.rpow_pos_of_pos hbase x) hbound,
    relates_turn _ hk, mul_sub, mul_div_cancel₀ _ hk, relates_sub]

end Power

theorem leading_of_le {p : Params ℝ} {key : String} {k : ℝ} (hk : p.numberD key 1 = k)
    (hlarge : tolerance ≤ |k|) : leading p key = .ok k := by
  simp only [leading, Exact.one_eq, hk, bind_eq_ok_iff]
  exact ⟨(), (checkLeading_eq_ok_iff k ()).mpr hlarge, rfl⟩

/-- The inequality that the parameters state is solved, its answer holds just the numbers that
satisfy it, and so does the isolated relation wherever there is a critical value. -/
theorem solveExponentialInequality_exact {p : Params ℝ} {k base bound : ℝ} {r : Relation}
    (hk : p.numberD "coefficient" 1 = k) (hbase : base? p = some base)
    (hbound : p.number? "bound" = some bound)
    (hr : relation p .exponentialInequality = .ok r) (hlarge : 1e-10 ≤ |k|)
    (hpos : 0 < base) (hln : 1e-10 ≤ |Real.log base|) :
    ∃ s d, solveExponentialInequality p = .ok s ∧ s.detail = .exponentialInequality d ∧
      (∀ x, s.set.Contains x ↔ r.Relates (k * base ^ x) bound) ∧
      (d.criticalValue.isSome = true ↔ 0 < bound / k) ∧
      ∀ critical ∈ d.criticalValue, ∀ x,
        r.Relates (k * base ^ x) bound ↔ d.isolatedRelation.Relates x critical := by
  have hk0 : k ≠ 0 := abs_pos.mp (Exact.tolerance_pos.trans_le hlarge)
  have hln0 : Real.log base ≠ 0 := abs_pos.mp (Exact.tolerance_pos.trans_le hln)
  have hsolve : solveExponentialInequality p =
      .ok (exponentialInequality k base bound (Real.log base) r) := by
    simp only [solveExponentialInequality, bind_eq_ok_iff]
    exact ⟨k, leading_of_le hk hlarge, base, by rw [requireBase, hbase]; rfl, bound,
      by rw [require, hbound]; rfl, r, hr, _, (lnBase_eq_ok_iff _ _).mpr ⟨hpos, hln, rfl⟩, rfl⟩
  refine ⟨_, _, hsolve, rfl, fun x => ?_, ?_, ?_⟩
  · rcases le_or_gt (bound / k) 0 with hle | hgt
    · rw [relates_power_of_unreachable hk0 hpos r hle, ← holdsForPositive_turn hk0,
        set_of_unreachable base _ r hle]
      split <;> simp_all [SolutionSet.Contains]
    · rw [set_of_reachable base _ r hgt, contains_isolatedSet_iff,
        relates_isolated_iff hk0 hpos r hln0 hgt]
  · rcases le_or_gt (bound / k) 0 with hle | hgt
    · simp [hle, hle.not_gt]
    · simp [hgt, hgt.not_ge]
  · intro critical hcritical x
    rcases le_or_gt (bound / k) 0 with hle | hgt
    · simp [hle] at hcritical
    · obtain rfl : Real.log (bound / k) / Real.log base = critical := by
        simpa [hgt.not_ge] using hcritical
      rw [← relates_isolated_iff hk0 hpos r hln0 hgt]
      simp [turn, hgt.not_ge]

/-- In `-3 * 0.5^x < -12` the relation is turned round twice. -/
theorem solveExponentialInequality_twiceTurned :
    ∃ s d, solveExponentialInequality (α := ℝ) ⟨[("base", .number (1 / 2)),
        ("bound", .number (-12)), ("coefficient", .number (-3)), ("operator", .text "<")]⟩ =
        .ok s ∧ s.detail = .exponentialInequality d ∧
      (∀ x, s.set.Contains x ↔ -3 * (1 / 2 : ℝ) ^ x < -12) ∧
      (d.criticalValue.isSome = true ↔ 0 < (-12 / -3 : ℝ)) ∧
      ∀ critical ∈ d.criticalValue, ∀ x,
        -3 * (1 / 2 : ℝ) ^ x < -12 ↔ d.isolatedRelation.Relates x critical := by
  have hlog : 1e-10 ≤ |Real.log (1 / 2)| := by
    rw [abs_of_neg (Real.log_neg (by norm_num) (by norm_num)), one_div, Real.log_inv, neg_neg]
    linarith [Real.one_sub_inv_le_log_of_pos (zero_lt_two' ℝ)]
  exact solveExponentialInequality_exact (r := .lt) rfl rfl rfl rfl (by norm_num) (by norm_num)
    hlog

end EquationTutor.Solve
