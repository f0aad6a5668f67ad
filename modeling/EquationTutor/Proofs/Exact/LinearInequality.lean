import EquationTutor.Proofs.Exact.ExponentialInequality

namespace EquationTutor

open Scalar

theorem Relation.flip_ne {r : Relation} (heq : r ≠ .eq) (hne : r ≠ .ne) : r.flip ≠ r := by
  cases r with
  | eq => exact absurd rfl heq
  | ne => exact absurd rfl hne
  | lt | gt | le | ge => decide

theorem Relation.turn_ne_iff {r : Relation} (heq : r ≠ .eq) (hne : r ≠ .ne) (m : ℝ) :
    r.turn m ≠ r ↔ m < 0 := by
  unfold Relation.turn
  split
  · exact iff_of_true (Relation.flip_ne heq hne) ‹m < 0›
  · exact iff_of_false (fun h => h rfl) ‹¬m < 0›

namespace Solve

variable {m : ℝ}

theorem linearInequality_of_le (hm : tolerance ≤ |m|) (b c : ℝ) (r : Relation) :
    linearInequality m b c r =
      .plain .linearInequality (describeSet (isolatedSet ((c - b) / m) (r.turn m)))
        (isolatedSet ((c - b) / m) (r.turn m))
        (.linearInequality
          { m := m
            b := b
            c := c
            relation := r
            isolatedRelation := r.turn m
            boundary := some ((c - b) / m)
            flipped := decide (m < 0) }) := by
  have hzero : isZero m = false := decide_eq_false (not_lt.mpr hm)
  simp [linearInequality, hzero, Relation.turn]

theorem mul_sub_boundary (hm : m ≠ 0) (b c x : ℝ) :
    m * (x - (c - b) / m) = m * x + b - c := by
  rw [mul_sub, mul_div_cancel₀ _ hm]
  ring

theorem relates_boundary_iff (hm : m ≠ 0) (b c : ℝ) (r : Relation) (x : ℝ) :
    (r.turn m).Relates x ((c - b) / m) ↔ r.Relates (m * x + b) c := by
  rw [r.relates_turn hm, mul_sub_boundary hm, r.relates_sub]

/-- The inequality that the parameters state is solved, and its answer holds just the numbers
that satisfy it. So does the isolated relation to the boundary; an order is marked as turned
round if and only if the isolated relation is another one. -/
theorem solveLinearInequality_exact {p : Params ℝ} {b c : ℝ} {r : Relation}
    (hslope : p.number? "m" = some m) (hb : p.numberD "b" 0 = b) (hc : p.numberD "c" 0 = c)
    (hr : relation p .linearInequality = .ok r) (hm : 1e-10 ≤ |m|) :
    ∃ s d boundary, solveLinearInequality p = .ok s ∧ s.detail = .linearInequality d ∧
      d.relation = r ∧ d.boundary = some boundary ∧
      (∀ x, s.set.Contains x ↔ r.Relates (m * x + b) c) ∧
      (∀ x, r.Relates (m * x + b) c ↔ d.isolatedRelation.Relates x boundary) ∧
      (r ≠ .eq → r ≠ .ne → (d.flipped = true ↔ d.isolatedRelation ≠ d.relation)) := by
  have hm0 : m ≠ 0 := Exact.ne_zero_of_le hm
  have hsolve : solveLinearInequality p = .ok (linearInequality m b c r) := by
    simp only [solveLinearInequality, Exact.zero_eq, hb, hc, bind_eq_ok_iff]
    exact ⟨m, by rw [require, hslope]; rfl, r, hr, rfl⟩
  rw [linearInequality_of_le hm] at hsolve
  refine ⟨_, _, _, hsolve, rfl, rfl, rfl, ?_, ?_, ?_⟩
  · intro x
    rw [← relates_boundary_iff hm0]
    exact contains_isolatedSet_iff _ _ x
  · intro x
    exact (relates_boundary_iff hm0 b c r x).symm
  · intro heq hne
    rw [Relation.turn_ne_iff heq hne]
    exact decide_eq_true_iff

/-- In `-2x + 3 >= 7` the relation is turned round. -/
theorem solveLinearInequality_turned :
    ∃ s d boundary, solveLinearInequality (α := ℝ) ⟨[("b", .number 3), ("c", .number 7),
        ("m", .number (-2)), ("operator", .text ">=")]⟩ = .ok s ∧
      s.detail = .linearInequality d ∧ d.relation = .ge ∧ d.boundary = some boundary ∧
      (∀ x, s.set.Contains x ↔ 7 ≤ -2 * x + 3) ∧
      (∀ x, 7 ≤ -2 * x + 3 ↔ d.isolatedRelation.Relates x boundary) ∧
      (Relation.ge ≠ .eq → Relation.ge ≠ .ne →
        (d.flipped = true ↔ d.isolatedRelation ≠ d.relation)) := by
  have hslope : (1e-10 : ℝ) ≤ |-2| := by norm_num
  exact solveLinearInequality_exact (r := .ge) rfl rfl rfl rfl hslope

end Solve

end EquationTutor
