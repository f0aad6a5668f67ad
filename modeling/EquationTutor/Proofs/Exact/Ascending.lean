import EquationTutor.Proofs.Exact.Apart
import EquationTutor.Proofs.Exact.Solved
import EquationTutor.Proofs.Factoring.IntegerFactors

namespace EquationTutor

open Scalar

/-- Numbers in strictly ascending order, intervals from left to right with a gap between any
two. -/
def SolutionSet.Canonical : SolutionSet ℝ → Prop
  | discrete values => values.Pairwise (· < ·)
  | intervals pieces =>
    (∀ i ∈ pieces, i.HasNumber) ∧ pieces.Pairwise Interval.Apart
  | complex _ | allReals | empty | point _ _ | infinite | quantity _ _ => True

/-- The numbers that a detail lists stand in strictly ascending order. -/
def Detail.Ascending : Detail ℝ → Prop
  | .quadraticInequality d => d.criticalPoints.Pairwise (· < ·)
  | .exponentialQuadratic d => d.uRoots.Pairwise (· < ·)
  | .vertexAnalysis d => d.xIntercepts.Pairwise (· < ·)
  | .projectile d => d.targetTimes.Pairwise (· < ·)
  | .quadratic _ | .factoring _ | .completingSquare _ | .linearInequality _
  | .exponentialInequality _ | .exponential _ | .logarithmic _ | .growth _ | .halfLife _
  | .linear _ | .system _ => True

def Solution.Canonical (s : Solution ℝ) : Prop :=
  s.set.Canonical ∧ s.detail.Ascending

theorem mem_of_mem_dedupBy {β : Type} {same : β → β → Bool} {xs : List β} {x : β}
    (h : x ∈ dedupBy same xs) : x ∈ xs := by
  induction xs with
  | nil => simp [dedupBy] at h
  | cons y xs ih =>
      rw [dedupBy] at h
      split at h
      · simp_all
      · rename_i z zs hrest
        rw [hrest] at ih
        split at h <;> simp only [List.mem_cons] at h ih ⊢ <;> tauto

theorem pairwise_dedupBy {same : ℝ → ℝ → Bool} (hsame : ∀ x, same x x = true) {xs : List ℝ}
    (h : xs.Pairwise (· ≤ ·)) : (dedupBy same xs).Pairwise (· < ·) := by
  induction xs with
  | nil => simp [dedupBy]
  | cons x xs ih =>
      rw [List.pairwise_cons] at h
      have ih := ih h.2
      rw [dedupBy]
      split
      · simp
      · rename_i y ys hrest
        have hle : ∀ z ∈ y :: ys, x ≤ z := fun z hz =>
          h.1 z (mem_of_mem_dedupBy (hrest ▸ hz))
        rw [hrest] at ih
        have hy := List.pairwise_cons.mp ih
        split
        · exact List.pairwise_cons.mpr
            ⟨fun z hz => (hle y (by simp)).trans_lt (hy.1 z hz), hy.2⟩
        · rename_i hdiffers
          have hxy : x < y := by
            refine lt_of_le_of_ne (hle y (by simp)) ?_
            rintro rfl
            exact hdiffers (hsame x)
          refine List.pairwise_cons.mpr ⟨fun z hz => ?_, ih⟩
          rcases List.mem_cons.mp hz with rfl | hz
          · exact hxy
          · exact hxy.trans (hy.1 z hz)

theorem pairwise_sort (xs : List ℝ) : (sort xs).Pairwise (· ≤ ·) := by
  refine (List.pairwise_mergeSort ?_ ?_ xs).imp fun h => of_decide_eq_true h
  · intro x y z hxy hyz
    exact decide_eq_true ((of_decide_eq_true hxy).trans (of_decide_eq_true hyz))
  · intro x y
    exact Bool.or_eq_true_iff.mpr ((le_total x y).imp decide_eq_true decide_eq_true)

namespace Solve

variable {kind : Kind} {p : Params ℝ} {s : Solution ℝ}

section Roots

variable {roots : QuadraticRoots ℝ}

theorem pairwise_real_of_quadraticRoots {a b c delta : ℝ}
    (h : quadraticRoots a b c = .ok (delta, roots)) : roots.real.Pairwise (· < ·) := by
  obtain ⟨ha, rfl, rfl⟩ := quadraticRoots_eq_ok_iff.mp h
  have ha0 : a ≠ 0 := Exact.ne_zero_of_le ((checkLeading_eq_ok_iff a ()).mp ha)
  rcases lt_or_ge tolerance |discriminant a b c| with hlarge | hsmall
  · rcases lt_abs.mp hlarge with hpos | hneg
    · obtain ⟨x, y, hroots, hxy, -⟩ := rootsOf_of_lt ha0 hpos
      simpa [hroots, QuadraticRoots.real] using hxy
    · simp [real_rootsOf_of_lt_neg (by linarith : discriminant a b c < -tolerance)]
  · simp [rootsOf_of_abs_le hsmall, QuadraticRoots.real]

theorem pairwise_real_rootsOfSquare (h remainder : ℝ) :
    (rootsOfSquare h remainder).real.Pairwise (· < ·) := by
  unfold rootsOfSquare
  split
  · rename_i hpos
    have hroot : 0 < √remainder := Real.sqrt_pos.mpr (Exact.tolerance_pos.trans hpos)
    simp [QuadraticRoots.real]
    linarith
  · split <;> simp [QuadraticRoots.real]

theorem canonical_toSet (h : roots.real.Pairwise (· < ·)) : roots.toSet.Canonical := by
  cases roots with
  | complexPair z w => trivial
  | _ => exact h

end Roots

theorem canonical_solveQuadratic (h : solveQuadratic kind p = .ok s) : s.Canonical := by
  obtain ⟨a, b, c, delta, roots, hroots, rfl⟩ := answer_of_solveQuadratic h
  exact ⟨canonical_toSet (pairwise_real_of_quadraticRoots hroots), trivial⟩

theorem le_of_factorIntegers {a b c x y : Int} {common : Option Int}
    (h : factorIntegers a b c = some (common, x, y)) : x ≤ y := by
  simp only [factorIntegers, Option.ite_none_right_eq_some, Option.map_eq_some_iff] at h
  obtain ⟨-, ⟨x', y'⟩, hpair, heq⟩ := h
  cases heq
  exact ((findFactorPair_eq_some_iff _ _ _ _).mp hpair).2.le

theorem canonical_solveFactoring (h : solveFactoring p = .ok s) : s.Canonical := by
  obtain ⟨a, b, c, delta, roots, hroots, ⟨common, x, y, hfactors, rfl⟩ | rfl⟩ :=
    answer_of_solveFactoring h
  · have hxy : (-(y : ℝ)) ≤ -(x : ℝ) :=
      neg_le_neg (Int.cast_le.mpr (le_of_factorIntegers hfactors))
    exact ⟨pairwise_dedupBy (fun t => beq_self_eq_true t) (by simpa using hxy), trivial⟩
  · exact ⟨canonical_toSet (pairwise_real_of_quadraticRoots hroots), trivial⟩

theorem canonical_solveCompletingSquare (h : solveCompletingSquare p = .ok s) :
    s.Canonical := by
  obtain ⟨roots, d, shift, remainder, rfl, rfl⟩ := answer_of_solveCompletingSquare h
  exact ⟨canonical_toSet (pairwise_real_rootsOfSquare shift remainder), trivial⟩

theorem canonical_solveQuadraticInequality (h : solveQuadraticInequality p = .ok s) :
    s.Canonical := by
  obtain ⟨a, b, c, r, delta, roots, -, hroots, rfl⟩ := answer_of_solveQuadraticInequality h
  have hsorted := pairwise_real_of_quadraticRoots hroots
  refine ⟨?_, hsorted⟩
  change (solveByTestPoints roots.real r (quadraticAt a b c)).1.Canonical
  cases hset : (solveByTestPoints roots.real r (quadraticAt a b c)).1 with
  | discrete values =>
      simp only [solveByTestPoints, setOfIntervals] at hset
      split at hset <;> try split at hset
      all_goals cases hset
  | intervals pieces => exact apart_solveByTestPoints hsorted r _ hset
  | _ => trivial

theorem pairwise_of_timesAt {gravity v0 c delta : ℝ} {times : List ℝ}
    (h : timesAt gravity v0 c = .ok (delta, times)) : times.Pairwise (· < ·) := by
  obtain ⟨roots, hroots, rfl⟩ := timesAt_eq_ok_iff.mp h
  refine pairwise_dedupBy (fun t => ?_) ?_
  · simpa using Exact.tolerance_pos
  · refine (((pairwise_real_of_quadraticRoots hroots).filter _).imp le_of_lt).map _ ?_
    intro x y hxy
    exact max_le_max_right _ hxy

theorem canonical_solveProjectile (h : solveProjectile p = .ok s) : s.Canonical := by
  obtain ⟨label, set, d, rfl, -, hset⟩ := answer_of_solveProjectile h
  rcases hset with ⟨-, hnone, rfl⟩ | ⟨target, delta, -, htimes, -, rfl⟩
  · refine ⟨trivial, ?_⟩
    change d.targetTimes.Pairwise _
    rw [hnone]
    exact List.Pairwise.nil
  · exact ⟨pairwise_of_timesAt htimes, pairwise_of_timesAt htimes⟩

theorem canonical_solveVertex (h : solveVertex p = .ok s) : s.Canonical := by
  obtain ⟨a, b, c, delta, roots, hroots, d, -, hintercepts, -, hset, -, hdetail⟩ :=
    answer_of_solveVertex h
  rw [Solution.Canonical, hset, hdetail]
  refine ⟨trivial, ?_⟩
  change d.xIntercepts.Pairwise _
  rw [hintercepts]
  exact pairwise_real_of_quadraticRoots hroots

theorem canonical_ite (q : Prop) [Decidable q] :
    (if q then .allReals else .empty : SolutionSet ℝ).Canonical := by
  split <;> trivial

theorem canonical_isolatedSet (rhs : ℝ) (r : Relation) : (isolatedSet rhs r).Canonical := by
  cases hset : isolatedSet rhs r with
  | discrete values =>
      cases r <;> cases hset
      exact List.pairwise_singleton ..
  | intervals pieces => exact apart_isolatedSet rhs r hset
  | _ => trivial

theorem canonical_solveLinearInequality (h : solveLinearInequality p = .ok s) :
    s.Canonical := by
  obtain ⟨m, b, c, r, -, rfl⟩ := answer_of_solveLinearInequality h
  refine ⟨?_, trivial⟩
  simp only [linearInequality, Solution.plain]
  split
  · exact canonical_ite _
  · exact canonical_isolatedSet ..

theorem canonical_solveExponentialInequality (h : solveExponentialInequality p = .ok s) :
    s.Canonical := by
  obtain ⟨k, base, bound, ln, r, -, -, -, rfl⟩ := answer_of_solveExponentialInequality h
  refine ⟨?_, trivial⟩
  simp only [exponentialInequality, Solution.plain]
  split
  · exact canonical_ite _
  · exact canonical_isolatedSet ..

/-- Taking logarithms to a base below 1 reverses the order, and sorting restores it. -/
theorem canonical_solveExponentialQuadratic (h : solveExponentialQuadratic p = .ok s) :
    s.Canonical := by
  obtain ⟨a, b, c, ln, delta, roots, values, hroots, hvalues, d, huRoots, -, hset, -,
    hdetail⟩ := answer_of_solveExponentialQuadratic h
  have hsorted : values.Pairwise (· < ·) := by
    rw [hvalues]
    exact pairwise_dedupBy (fun t => beq_self_eq_true t) (pairwise_sort _)
  rw [Solution.Canonical, hset, hdetail]
  constructor
  · unfold exponentialQuadraticSet
    split
    · trivial
    · split
      · trivial
      · exact List.pairwise_singleton ..
      · exact hsorted
  · change d.uRoots.Pairwise _
    rw [huRoots]
    exact pairwise_real_of_quadraticRoots hroots

end Solve

open Solve

/-- Every answer over the reals is in its canonical form. -/
theorem canonical_of_solveKind (kind : Kind) (p : Params ℝ) (s : Solution ℝ)
    (h : solveKind kind p = .ok s) : s.Canonical := by
  cases kind with
  | standardQuadratic | quadraticFormula => exact canonical_solveQuadratic h
  | factoringQuadratic => exact canonical_solveFactoring h
  | completingSquare => exact canonical_solveCompletingSquare h
  | quadraticInequality => exact canonical_solveQuadraticInequality h
  | projectileMotion => exact canonical_solveProjectile h
  | quadraticOptimization => exact canonical_solveVertex h
  | linearInequality => exact canonical_solveLinearInequality h
  | exponentialInequality => exact canonical_solveExponentialInequality h
  | exponentialQuadratic => exact canonical_solveExponentialQuadratic h
  | simpleExponential =>
      obtain ⟨label, x, d, -, rfl⟩ := answer_of_solveSimpleExponential h
      exact ⟨List.pairwise_singleton .., trivial⟩
  | naturalExponential =>
      obtain ⟨label, x, d, -, rfl⟩ := answer_of_solveNaturalExponential h
      exact ⟨List.pairwise_singleton .., trivial⟩
  | logarithmicEquation =>
      obtain ⟨label, x, d, rfl⟩ := answer_of_solveLogarithmic h
      exact ⟨List.pairwise_singleton .., trivial⟩
  | compoundInterest | exponentialGrowth | exponentialDecay =>
      obtain ⟨law, trend, v, rfl⟩ := answer_of_solveGrowth h
      exact ⟨trivial, trivial⟩
  | halfLife =>
      obtain ⟨label, name, d, rfl⟩ := answer_of_solveHalfLife h
      exact ⟨trivial, trivial⟩
  | simpleLinear =>
      obtain ⟨m, b, c, rfl⟩ := answer_of_solveLinear h
      refine ⟨?_, trivial⟩
      simp only [linearSet, Solution.plain]
      split
      · split <;> trivial
      · exact List.pairwise_singleton ..
  | linearSystem =>
      obtain ⟨a1, b1, c1, a2, b2, c2, rfl⟩ := answer_of_solveSystem h
      refine ⟨?_, trivial⟩
      simp only [linearSystem, systemSet, Solution.plain]
      split
      · split <;> trivial
      · trivial

/-- The coefficients of a quadratic equation in the powers of a base. -/
noncomputable def powerParams (a b c base : ℝ) : Params ℝ :=
  ⟨[("a", .number a), ("b", .number b), ("base", .number base), ("c", .number c)]⟩

/-- In `(1/2)^(2x) - 6 (1/2)^x + 8 = 0` the greater root belongs to the smaller number. -/
theorem canonical_powersOfHalf :
    ∃ s, solveKind .exponentialQuadratic (powerParams 1 (-6) 8 (1 / 2)) = .ok s ∧
      s.Canonical := by
  obtain ⟨p, hp⟩ : ∃ p, p = powerParams 1 (-6) 8 (1 / 2) := ⟨_, rfl⟩
  have hbase : requireBase p .exponentialQuadratic = .ok (1 / 2) := by rw [hp]; rfl
  have hln : lnBase (1 / 2 : ℝ) = .ok (Real.log (1 / 2)) := by
    rw [lnBase_eq_ok_iff]
    refine ⟨by norm_num, ?_, rfl⟩
    rw [Exact.tolerance_eq, one_div, Real.log_inv, abs_neg, abs_of_pos (Real.log_pos one_lt_two)]
    linarith [Real.one_sub_inv_le_log_of_pos (zero_lt_two (α := ℝ))]
  have ha (d : ℝ) : tolerance ≤ |p.numberD "a" d| := by
    rw [hp]
    change tolerance ≤ |(1 : ℝ)|
    rw [Exact.tolerance_eq]
    norm_num
  have hsolve : ∃ s, solveKind .exponentialQuadratic p = .ok s := by
    simp only [solveKind, solveExponentialQuadratic, hbase, hln, quadraticRoots_of_le (ha _), bind,
      Except.bind]
    exact ⟨_, rfl⟩
  rw [← hp]
  obtain ⟨s, hs⟩ := hsolve
  exact ⟨s, hs, canonical_of_solveKind _ _ s hs⟩

end EquationTutor
