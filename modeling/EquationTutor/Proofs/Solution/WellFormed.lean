import EquationTutor.Numeric.Double
import EquationTutor.Proofs.Solution.Answers

namespace EquationTutor

open Scalar

variable {α : Type}

namespace SolutionSet

def IsOneOrTwo (values : List α) : Prop :=
  values.length = 1 ∨ values.length = 2

/-- A union of intervals, or one of the sets that stand for everything and for nothing. -/
def IsRegion : SolutionSet α → Prop
  | intervals pieces => pieces ≠ []
  | allReals | empty => True
  | discrete _ | complex _ | point _ _ | infinite | quantity _ _ => False

variable [Scalar α]

/-- Real roots, or a complex number with its conjugate. -/
def IsRoots : SolutionSet α → Prop
  | discrete values => IsOneOrTwo values
  | complex values => ∃ z, values = [z, z.conj]
  | intervals _ | allReals | empty | point _ _ | infinite | quantity _ _ => False

end SolutionSet

/-- The detail that the method of a kind records. -/
def Detail.IsOf (kind : Kind) : Detail α → Prop
  | .quadratic _ => kind = .standardQuadratic ∨ kind = .quadraticFormula
  | .factoring _ => kind = .factoringQuadratic
  | .completingSquare _ => kind = .completingSquare
  | .quadraticInequality _ => kind = .quadraticInequality
  | .projectile _ => kind = .projectileMotion
  | .vertexAnalysis _ => kind = .quadraticOptimization
  | .linearInequality _ => kind = .linearInequality
  | .exponentialInequality _ => kind = .exponentialInequality
  | .exponentialQuadratic _ => kind = .exponentialQuadratic
  | .exponential d =>
    if d.natural then kind = .naturalExponential else kind = .simpleExponential
  | .logarithmic _ => kind = .logarithmicEquation
  | .growth _ =>
    kind = .compoundInterest ∨ kind = .exponentialGrowth ∨ kind = .exponentialDecay
  | .halfLife _ => kind = .halfLife
  | .linear _ => kind = .simpleLinear
  | .system _ => kind = .linearSystem

variable [Scalar α]

/-- The sets that go with a detail, for the parameters that were given. An equation in the
place of an inequality is solved for its one number where `x` can be isolated. -/
def Detail.Admits (p : Params α) (set : SolutionSet α) : Detail α → Prop
  | .quadratic _ | .factoring _ | .completingSquare _ => set.IsRoots
  | .quadraticInequality d =>
    Solve.relation p .quadraticInequality = .ok d.relation ∧ set.IsRegion
  | .linearInequality d =>
    Solve.relation p .linearInequality = .ok d.relation ∧
      if d.relation = .eq ∧ isZero d.m = false then
        ∃ x, d.boundary = some x ∧ set = .discrete [x]
      else set.IsRegion
  | .exponentialInequality d =>
    Solve.relation p .exponentialInequality = .ok d.relation ∧
      if d.relation = .eq ∧ ¬ d.bound / d.coefficient ≤ 0 then
        ∃ x, d.criticalValue = some x ∧ set = .discrete [x]
      else set.IsRegion
  | .linear _ => (∃ x, set = .discrete [x]) ∨ set = .allReals ∨ set = .empty
  | .exponentialQuadratic _ =>
    set = .empty ∨ ∃ values, set = .discrete values ∧ SolutionSet.IsOneOrTwo values
  | .exponential _ | .logarithmic _ => ∃ x, set = .discrete [x]
  | .projectile d =>
    d.targetHeight = p.number? "target_height" ∧
      if d.targetHeight.isSome then d.targetTimes ≠ [] ∧ set = .discrete d.targetTimes
      else ∃ name, set = .quantity name d.maxHeight
  | .vertexAnalysis d => ∃ name, set = .quantity name d.quadratic.vertex.y
  | .growth d => set = .quantity d.solvedFor.symbol (d.valueOf d.solvedFor)
  | .halfLife d => ∃ name, set = .quantity name (d.amount.getD d.k)
  | .system _ => (∃ x y, set = .point x y) ∨ set = .infinite ∨ set = .empty

namespace Solution

/-- The answer belongs to its kind and to the parameters. -/
structure WellFormed (kind : Kind) (p : Params α) (s : Solution α) : Prop where
  category_eq : s.category = kind
  isOf : s.detail.IsOf kind
  admits : s.detail.Admits p s.set
  /-- The formula takes over exactly where no factor pair is recorded. -/
  fallback_iff : s.fallback = true ↔ ∃ d, s.detail = .factoring d ∧ d.pair = none
  notes_of_fallback : s.fallback = true → s.notes = [Solve.fallbackNote]

theorem WellFormed.of_direct {kind : Kind} {p : Params α} {s : Solution α}
    (hcategory : s.category = kind) (hisOf : s.detail.IsOf kind)
    (hadmits : s.detail.Admits p s.set) (hfallback : s.fallback = false)
    (hpair : ∀ d, s.detail = .factoring d → d.pair ≠ none) : s.WellFormed kind p where
  category_eq := hcategory
  isOf := hisOf
  admits := hadmits
  fallback_iff := by
    rw [hfallback]
    constructor
    · intro h
      cases h
    · rintro ⟨d, hd, hnone⟩
      exact absurd hnone (hpair d hd)
  notes_of_fallback := by
    rw [hfallback]
    intro h
    cases h

theorem WellFormed.plain {kind : Kind} {p : Params α} {label : String} {set : SolutionSet α}
    {detail : Detail α} (hisOf : detail.IsOf kind) (hadmits : detail.Admits p set)
    (hpair : ∀ d, detail = .factoring d → d.pair ≠ none) :
    (Solution.plain kind label set detail).WellFormed kind p :=
  .of_direct rfl hisOf hadmits rfl hpair

end Solution

namespace Solve

open SolutionSet Solution

variable {kind : Kind} {p : Params α} {s : Solution α}

section Sets

theorem length_dedup_le {β : Type} (same : β → β → Bool) (xs : List β) :
    (dedupBy same xs).length ≤ xs.length ∧ (dedupBy same xs = [] → xs = []) := by
  induction xs with
  | nil => simp [dedupBy]
  | cons x xs ih =>
      rw [dedupBy]
      split
      · simp
      · rename_i y ys hrest
        rw [hrest] at ih
        have hlength := ih.1
        simp only [List.length_cons] at hlength
        split <;> simp <;> omega

theorem isOneOrTwo_dedup_pair (x y : α) : IsOneOrTwo (dedup [x, y]) := by
  have hle : (dedup [x, y]).length ≤ 2 := (length_dedup_le _ _).1
  have hne : dedup [x, y] ≠ [] := fun h => by simpa using (length_dedup_le _ _).2 h
  have hpos := List.length_pos_iff.mpr hne
  unfold IsOneOrTwo
  omega

theorem isRoots_toSet_rootsOf (a b c delta : α) : (rootsOf a b c delta).toSet.IsRoots := by
  unfold rootsOf
  split
  · exact Or.inr rfl
  · split
    · exact Or.inl rfl
    · exact ⟨_, rfl⟩

theorem isRoots_toSet_rootsOfSquare (h remainder : α) :
    (rootsOfSquare h remainder).toSet.IsRoots := by
  unfold rootsOfSquare
  split
  · exact Or.inr rfl
  · split
    · exact Or.inl rfl
    · exact ⟨_, rfl⟩

theorem isRegion_setOfIntervals {β : Type} (pieces : List (Interval β)) :
    (setOfIntervals pieces).IsRegion := by
  rcases pieces with _ | ⟨i, _ | ⟨j, js⟩⟩
  · trivial
  · cases hline : i.isLine <;> simp [setOfIntervals, hline, IsRegion]
  · exact List.cons_ne_nil _ _

theorem isRegion_ite (q : Prop) [Decidable q] {β : Type} :
    (if q then allReals else empty : SolutionSet β).IsRegion := by
  split <;> trivial

theorem isRegion_isolatedSet {r : Relation} (hr : r ≠ .eq) {β : Type} (rhs : β) :
    (isolatedSet rhs r).IsRegion := by
  cases r with
  | eq => exact absurd rfl hr
  | _ => exact List.cons_ne_nil _ _

theorem turn_eq_eq_iff (q : Prop) [Decidable q] (r : Relation) :
    (if q then r.flip else r) = .eq ↔ r = .eq := by
  split <;> cases r <;> simp [Relation.flip]

theorem linearSet_cases (m b c : α) :
    (∃ x, (linearSet m b c).2 = discrete [x]) ∨
      (linearSet m b c).2 = allReals ∨ (linearSet m b c).2 = empty := by
  unfold linearSet
  split
  · split <;> simp
  · exact Or.inl ⟨_, rfl⟩

theorem systemSet_cases (determinant detX detY : α) :
    (∃ x y, (systemSet determinant detX detY).2 = point x y) ∨
      (systemSet determinant detX detY).2 = infinite ∨
      (systemSet determinant detX detY).2 = empty := by
  unfold systemSet
  split
  · split <;> simp
  · exact Or.inl ⟨_, _, rfl⟩

end Sets

theorem wellFormed_solveQuadratic (hkind : kind = .standardQuadratic ∨ kind = .quadraticFormula)
    (h : solveQuadratic kind p = .ok s) : s.WellFormed kind p := by
  obtain ⟨a, b, c, delta, roots, hroots, rfl⟩ := answer_of_solveQuadratic h
  obtain ⟨-, -, rfl⟩ := quadraticRoots_eq_ok_iff.mp hroots
  exact .plain hkind (isRoots_toSet_rootsOf ..) (by simp)

theorem wellFormed_solveFactoring (h : solveFactoring p = .ok s) :
    s.WellFormed .factoringQuadratic p := by
  obtain ⟨a, b, c, delta, roots, hroots, ⟨common, x, y, -, rfl⟩ | rfl⟩ :=
    answer_of_solveFactoring h
  · refine .plain rfl (isOneOrTwo_dedup_pair ..) ?_
    rintro d ⟨⟩
    simp
  · obtain ⟨-, -, rfl⟩ := quadraticRoots_eq_ok_iff.mp hroots
    exact
      { category_eq := rfl
        isOf := rfl
        admits := isRoots_toSet_rootsOf ..
        fallback_iff := ⟨fun _ => ⟨_, rfl, rfl⟩, fun _ => rfl⟩
        notes_of_fallback := fun _ => rfl }

theorem wellFormed_solveCompletingSquare (h : solveCompletingSquare p = .ok s) :
    s.WellFormed .completingSquare p := by
  obtain ⟨roots, d, shift, remainder, rfl, rfl⟩ := answer_of_solveCompletingSquare h
  exact .plain rfl (isRoots_toSet_rootsOfSquare ..) (by simp)

theorem wellFormed_solveQuadraticInequality (h : solveQuadraticInequality p = .ok s) :
    s.WellFormed .quadraticInequality p := by
  obtain ⟨a, b, c, r, delta, roots, hr, -, rfl⟩ := answer_of_solveQuadraticInequality h
  exact .plain rfl ⟨hr, isRegion_setOfIntervals _⟩ (by simp)

theorem wellFormed_solveProjectile (h : solveProjectile p = .ok s) :
    s.WellFormed .projectileMotion p := by
  obtain ⟨label, set, d, rfl, htarget, hset⟩ := answer_of_solveProjectile h
  refine .plain rfl ⟨htarget, ?_⟩ (by simp)
  rcases hset with ⟨hnone, -, hquantity⟩ | ⟨target, delta, hsome, -, htimes⟩
  · rw [hnone]
    exact ⟨_, hquantity⟩
  · rw [hsome]
    exact htimes

theorem wellFormed_solveVertex (h : solveVertex p = .ok s) :
    s.WellFormed .quadraticOptimization p := by
  obtain ⟨a, b, c, delta, roots, -, d, -, -, hcategory, hset, hfallback, hdetail⟩ :=
    answer_of_solveVertex h
  refine .of_direct hcategory ?_ ?_ hfallback ?_
  · rw [hdetail]
    rfl
  · rw [hdetail]
    exact ⟨_, hset⟩
  · simp [hdetail]

theorem wellFormed_solveLinearInequality (h : solveLinearInequality p = .ok s) :
    s.WellFormed .linearInequality p := by
  obtain ⟨m, b, c, r, hr, rfl⟩ := answer_of_solveLinearInequality h
  refine .plain rfl ⟨hr, ?_⟩ (by simp)
  change if r = .eq ∧ isZero m = false then _ else _
  cases hm : isZero m with
  | true => simpa [linearInequality, Solution.plain, hm] using isRegion_ite _
  | false =>
      by_cases heq : r = .eq
      · rw [if_pos ⟨heq, rfl⟩]
        exact ⟨(c - b) / m, by simp, by simp [(turn_eq_eq_iff (m < 0) r).mpr heq, isolatedSet]⟩
      · have hisolated := mt (turn_eq_eq_iff (m < 0) r).mp heq
        simpa [heq, hm] using isRegion_isolatedSet hisolated ((c - b) / m)

theorem wellFormed_solveExponentialInequality (h : solveExponentialInequality p = .ok s) :
    s.WellFormed .exponentialInequality p := by
  obtain ⟨k, base, bound, ln, r, -, -, hr, rfl⟩ := answer_of_solveExponentialInequality h
  refine .plain rfl ⟨hr, ?_⟩ (by simp)
  change if r = .eq ∧ ¬ bound / k ≤ 0 then _ else _
  have hturn := (turn_eq_eq_iff (ln < 0) _).trans (turn_eq_eq_iff (k < 0) r)
  by_cases houtside : bound / k ≤ 0
  · simpa [houtside] using isRegion_ite _
  · by_cases heq : r = .eq
    · rw [if_pos ⟨heq, houtside⟩]
      exact ⟨Scalar.ln (bound / k) / ln, by simp [houtside], by
        simp [houtside, hturn.mpr heq, isolatedSet]⟩
    · simpa [houtside, heq] using isRegion_isolatedSet (mt hturn.mp heq) _

theorem wellFormed_solveExponentialQuadratic (h : solveExponentialQuadratic p = .ok s) :
    s.WellFormed .exponentialQuadratic p := by
  obtain ⟨a, b, c, ln, delta, roots, values, -, hvalues, d, -, hcategory, hset, hfallback,
    hdetail⟩ := answer_of_solveExponentialQuadratic h
  have hlength : values.length ≤ 2 := by
    calc
      values.length ≤ (roots.real.filter fun u => decide (tolerance < u)).length := by
        rw [hvalues, dedup, sort]
        exact Nat.le_trans (length_dedup_le _ _).1 (by simp)
      _ ≤ roots.real.length := List.length_filter_le ..
      _ ≤ 2 := length_real_le roots
  refine .of_direct hcategory ?_ ?_ hfallback ?_
  · rw [hdetail]
    rfl
  · rw [hdetail, hset]
    unfold exponentialQuadraticSet
    split
    · exact Or.inl rfl
    · rcases values with _ | ⟨x, _ | ⟨y, ys⟩⟩
      · exact Or.inl rfl
      · exact Or.inr ⟨_, rfl, Or.inl rfl⟩
      · refine Or.inr ⟨_, rfl, Or.inr ?_⟩
        simp only [List.length_cons] at hlength ⊢
        omega
  · simp [hdetail]

theorem wellFormed_solveSimpleExponential (h : solveSimpleExponential p = .ok s) :
    s.WellFormed .simpleExponential p := by
  obtain ⟨label, x, d, hnatural, rfl⟩ := answer_of_solveSimpleExponential h
  exact .plain (by simp [Detail.IsOf, hnatural]) ⟨x, rfl⟩ (by simp)

theorem wellFormed_solveNaturalExponential (h : solveNaturalExponential p = .ok s) :
    s.WellFormed .naturalExponential p := by
  obtain ⟨label, x, d, hnatural, rfl⟩ := answer_of_solveNaturalExponential h
  exact .plain (by simp [Detail.IsOf, hnatural]) ⟨x, rfl⟩ (by simp)

theorem wellFormed_solveLogarithmic (h : solveLogarithmic p = .ok s) :
    s.WellFormed .logarithmicEquation p := by
  obtain ⟨label, x, d, rfl⟩ := answer_of_solveLogarithmic h
  exact .plain rfl ⟨x, rfl⟩ (by simp)

theorem wellFormed_solveGrowth
    (hkind : kind = .compoundInterest ∨ kind = .exponentialGrowth ∨ kind = .exponentialDecay)
    (h : solveGrowth kind p = .ok s) : s.WellFormed kind p := by
  obtain ⟨law, trend, v, rfl⟩ := answer_of_solveGrowth h
  exact .plain hkind rfl (by simp)

theorem wellFormed_solveHalfLife (h : solveHalfLife p = .ok s) : s.WellFormed .halfLife p := by
  obtain ⟨label, name, d, rfl⟩ := answer_of_solveHalfLife h
  exact .plain rfl ⟨name, rfl⟩ (by simp)

theorem wellFormed_solveLinear (h : solveLinear p = .ok s) : s.WellFormed .simpleLinear p := by
  obtain ⟨m, b, c, rfl⟩ := answer_of_solveLinear h
  exact .plain rfl (linearSet_cases m b c) (by simp)

theorem wellFormed_solveSystem (h : solveSystem p = .ok s) : s.WellFormed .linearSystem p := by
  obtain ⟨a1, b1, c1, a2, b2, c2, rfl⟩ := answer_of_solveSystem h
  exact .plain rfl (systemSet_cases _ _ _) (by simp)

end Solve

open Solve

/-- Every answer is well formed for its kind, whatever numbers it was computed with. -/
theorem wellFormed_of_solveKind (kind : Kind) (p : Params α) (s : Solution α)
    (h : solveKind kind p = .ok s) : s.WellFormed kind p := by
  cases kind with
  | standardQuadratic => exact wellFormed_solveQuadratic (Or.inl rfl) h
  | quadraticFormula => exact wellFormed_solveQuadratic (Or.inr rfl) h
  | factoringQuadratic => exact wellFormed_solveFactoring h
  | completingSquare => exact wellFormed_solveCompletingSquare h
  | quadraticInequality => exact wellFormed_solveQuadraticInequality h
  | projectileMotion => exact wellFormed_solveProjectile h
  | quadraticOptimization => exact wellFormed_solveVertex h
  | linearInequality => exact wellFormed_solveLinearInequality h
  | exponentialInequality => exact wellFormed_solveExponentialInequality h
  | exponentialQuadratic => exact wellFormed_solveExponentialQuadratic h
  | simpleExponential => exact wellFormed_solveSimpleExponential h
  | naturalExponential => exact wellFormed_solveNaturalExponential h
  | logarithmicEquation => exact wellFormed_solveLogarithmic h
  | compoundInterest => exact wellFormed_solveGrowth (Or.inl rfl) h
  | exponentialGrowth => exact wellFormed_solveGrowth (Or.inr (Or.inl rfl)) h
  | exponentialDecay => exact wellFormed_solveGrowth (Or.inr (Or.inr rfl)) h
  | halfLife => exact wellFormed_solveHalfLife h
  | simpleLinear => exact wellFormed_solveLinear h
  | linearSystem => exact wellFormed_solveSystem h

/-- The coefficients of `x² + x - 1`, which has no integer factors. -/
def goldenQuadratic : Params Float :=
  ⟨[("a", .number 1), ("b", .number 1), ("c", .number (-1))]⟩

theorem wellFormed_goldenQuadratic :
    ∃ s, solveKind .factoringQuadratic goldenQuadratic = .ok s ∧ s.fallback = true ∧
      s.WellFormed .factoringQuadratic goldenQuadratic := by
  have hfallback : (solveKind .factoringQuadratic goldenQuadratic).toOption.map
      Solution.fallback = some true := by
    decide +kernel
  cases hs : solveKind .factoringQuadratic goldenQuadratic with
  | error e => simp [hs, Except.toOption] at hfallback
  | ok s =>
      have hs_fallback : s.fallback = true := by simpa [hs, Except.toOption] using hfallback
      exact ⟨s, rfl, hs_fallback, wellFormed_of_solveKind _ _ s hs⟩

end EquationTutor
