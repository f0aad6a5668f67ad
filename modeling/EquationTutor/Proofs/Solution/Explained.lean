import EquationTutor.Proofs.Finite.Roots
import EquationTutor.Proofs.Step.Answer

namespace EquationTutor

open Scalar

variable {α : Type} [Scalar α]

/-- What the worked solution of a problem of the kind has to end in. Where it ends in something
else than the answer there is no such text: a rate constant has none, nor has an exponential
inequality, a height or a vertex. -/
def Solution.answerText? (s : Solution α) (kind : Kind) : Option String :=
  match kind, s.set with
  | .exponentialInequality, _ | .projectileMotion, _ | .quadraticOptimization, _ => none
  | .quadraticInequality, _ | .linearInequality, _ => some s.label
  | .exponentialQuadratic, .empty => none
  | .halfLife, .quantity name value => if name = "A" then some s!"{name} = {shown value}" else none
  | _, .discrete values => some (Step.solutionsText values)
  | _, .complex values => some (Step.complexText values)
  | _, .point x y => some s!"(x, y) = ({shown x}, {shown y})"
  | _, .quantity name value => some s!"{name} = {shown value}"
  | _, .allReals | _, .empty | _, .infinite => some s.label
  | _, .intervals _ => none

/-- The worked solution ends in the answer, and with a substitution it keeps what the solver has
kept. -/
structure Solution.EndsInAnswer (s : Solution α) (kind : Kind) : Prop where
  last : ∀ text ∈ s.answerText? kind, Step.EndsIn text (s.steps kind)
  keeps : ∀ d, s.detail = .exponentialQuadratic d → Step.Keeps d s.set (s.steps kind)

namespace Solve

variable {kind : Kind} {p : Params α} {s : Solution α}

theorem endsInAnswer_of_outline
    (h : ∀ text ∈ s.answerText? kind, Step.EndsIn text (s.outline kind))
    (hdetail : ∀ d, s.detail ≠ .exponentialQuadratic d) : s.EndsInAnswer kind :=
  ⟨fun text htext => (h text htext).numberFrom 1, fun d hd => absurd hd (hdetail d)⟩

theorem endsInAnswer_solveQuadratic (hkind : kind = .standardQuadratic ∨ kind = .quadraticFormula)
    (h : solveQuadratic kind p = .ok s) : s.EndsInAnswer kind := by
  obtain ⟨a, b, c, delta, roots, -, rfl⟩ := answer_of_solveQuadratic h
  refine endsInAnswer_of_outline ?_ (by simp [Solution.plain])
  intro text htext
  have htext : text = Step.rootsText roots.toSet := by
    rcases hkind with rfl | rfl <;> cases roots <;> cases htext <;> rfl
  rw [htext]
  exact Step.endsIn_ofQuadratic rfl

theorem endsInAnswer_solveFactoring (h : solveFactoring p = .ok s) :
    s.EndsInAnswer .factoringQuadratic := by
  obtain ⟨a, b, c, delta, roots, -, ⟨common, x, y, -, rfl⟩ | rfl⟩ := answer_of_solveFactoring h
  · refine endsInAnswer_of_outline ?_ (by simp [factoredSolution, Solution.plain])
    rintro text ⟨⟩
    exact Step.endsIn_factoredSteps _ _ _ _ _
  · refine endsInAnswer_of_outline ?_ (by simp)
    intro text htext
    have htext : text = Step.rootsText roots.toSet := by
      cases roots <;> cases htext <;> rfl
    rw [htext]
    exact ((Step.endsIn_formulaSteps rfl).cons _).cons _

theorem endsInAnswer_solveCompletingSquare (h : solveCompletingSquare p = .ok s) :
    s.EndsInAnswer .completingSquare := by
  obtain ⟨roots, d, _, _, -, rfl⟩ := answer_of_solveCompletingSquare h
  refine endsInAnswer_of_outline ?_ (by simp [Solution.plain])
  intro text htext
  have htext : text = Step.rootsText roots.toSet := by
    cases roots <;> cases htext <;> rfl
  rw [htext]
  exact Step.endsIn_ofSquare _ d

theorem endsInAnswer_solveQuadraticInequality (h : solveQuadraticInequality p = .ok s) :
    s.EndsInAnswer .quadraticInequality := by
  obtain ⟨a, b, c, r, delta, roots, -, -, rfl⟩ := answer_of_solveQuadraticInequality h
  refine endsInAnswer_of_outline ?_ (by simp [Solution.plain])
  rintro text ⟨⟩
  exact Step.endsIn_ofQuadraticInequality _ _

theorem endsInAnswer_solveProjectile (h : solveProjectile p = .ok s) :
    s.EndsInAnswer .projectileMotion := by
  obtain ⟨label, set, d, rfl, -, -⟩ := answer_of_solveProjectile h
  exact endsInAnswer_of_outline (by rintro text ⟨⟩) (by simp [Solution.plain])

theorem endsInAnswer_solveVertex (h : solveVertex p = .ok s) :
    s.EndsInAnswer .quadraticOptimization := by
  obtain ⟨a, b, c, delta, roots, -, d, -, -, -, -, -, hdetail⟩ := answer_of_solveVertex h
  exact endsInAnswer_of_outline (by rintro text ⟨⟩) (by simp [hdetail])

theorem endsInAnswer_solveLinearInequality (h : solveLinearInequality p = .ok s) :
    s.EndsInAnswer .linearInequality := by
  obtain ⟨m, b, c, r, -, rfl⟩ := answer_of_solveLinearInequality h
  refine endsInAnswer_of_outline ?_ (by simp [linearInequality, Solution.plain])
  rintro text ⟨⟩
  exact Step.endsIn_ofLinearInequality _ _

theorem endsInAnswer_solveExponentialInequality (h : solveExponentialInequality p = .ok s) :
    s.EndsInAnswer .exponentialInequality := by
  obtain ⟨k, base, bound, ln, r, -, -, -, rfl⟩ := answer_of_solveExponentialInequality h
  exact endsInAnswer_of_outline (by rintro text ⟨⟩) (by simp [exponentialInequality, Solution.plain])

theorem endsInAnswer_solveSimpleExponential (h : solveSimpleExponential p = .ok s) :
    s.EndsInAnswer .simpleExponential := by
  obtain ⟨label, x, d, -, rfl⟩ := answer_of_solveSimpleExponential h
  refine endsInAnswer_of_outline ?_ (by simp [Solution.plain])
  rintro text ⟨⟩
  exact Step.endsIn_ofExponential _ d

theorem endsInAnswer_solveNaturalExponential (h : solveNaturalExponential p = .ok s) :
    s.EndsInAnswer .naturalExponential := by
  obtain ⟨label, x, d, -, rfl⟩ := answer_of_solveNaturalExponential h
  refine endsInAnswer_of_outline ?_ (by simp [Solution.plain])
  rintro text ⟨⟩
  exact Step.endsIn_ofExponential _ d

theorem endsInAnswer_solveLogarithmic (h : solveLogarithmic p = .ok s) :
    s.EndsInAnswer .logarithmicEquation := by
  obtain ⟨label, x, d, rfl⟩ := answer_of_solveLogarithmic h
  refine endsInAnswer_of_outline ?_ (by simp [Solution.plain])
  rintro text ⟨⟩
  exact Step.endsIn_ofLogarithmic _ d

theorem endsInAnswer_solveGrowth
    (hkind : kind = .compoundInterest ∨ kind = .exponentialGrowth ∨ kind = .exponentialDecay)
    (h : solveGrowth kind p = .ok s) : s.EndsInAnswer kind := by
  obtain ⟨law, trend, v, rfl⟩ := answer_of_solveGrowth h
  refine endsInAnswer_of_outline ?_ (by simp [growthSolution, Solution.plain])
  intro text htext
  rcases hkind with rfl | rfl | rfl <;> cases htext <;> exact Step.endsIn_ofGrowth _ _

theorem endsInAnswer_solveHalfLife (h : solveHalfLife p = .ok s) : s.EndsInAnswer .halfLife := by
  simp only [solveHalfLife, bind_eq_ok_iff] at h
  obtain ⟨⟨trend, t⟩, -, h⟩ := h
  split at h
  · cases h
  · split at h
    · rename_i hinitial htime
      cases h
      refine endsInAnswer_of_outline ?_ (by simp [Solution.plain])
      rintro text ⟨⟩
      exact Step.endsIn_ofHalfLife hinitial htime rfl
    · cases h
      exact endsInAnswer_of_outline (by rintro text ⟨⟩) (by simp [Solution.plain])

theorem endsInAnswer_solveLinear (h : solveLinear p = .ok s) : s.EndsInAnswer .simpleLinear := by
  obtain ⟨m, b, c, rfl⟩ := answer_of_solveLinear h
  refine endsInAnswer_of_outline ?_ (by simp [Solution.plain])
  intro text htext
  have hlast := Step.endsIn_ofLinear ⟨m, b, c⟩ (.plain .simpleLinear (linearSet m b c).1
    (linearSet m b c).2 (.linear ⟨m, b, c⟩))
  -- the steps and the set test the same coefficient
  change Step.EndsIn text (Step.ofLinear _ _)
  revert htext hlast
  unfold linearSet
  by_cases hm : isZero m = true
  · rw [if_pos hm, if_pos hm]
    split <;> rintro ⟨⟩ hlast <;> exact hlast
  · rw [if_neg hm, if_neg hm]
    rintro ⟨⟩ hlast
    exact hlast

theorem endsInAnswer_solveSystem (h : solveSystem p = .ok s) : s.EndsInAnswer .linearSystem := by
  obtain ⟨a1, b1, c1, a2, b2, c2, rfl⟩ := answer_of_solveSystem h
  refine endsInAnswer_of_outline ?_ (by simp [linearSystem, Solution.plain])
  intro text htext
  have hlast := Step.endsIn_ofSystem ⟨a1, b1, c1, a2, b2, c2, a1 * b2 - a2 * b1,
    c1 * b2 - c2 * b1, a1 * c2 - a2 * c1⟩ (linearSystem a1 b1 c1 a2 b2 c2)
  change Step.EndsIn text (Step.ofSystem _ _)
  revert htext hlast
  unfold linearSystem systemSet
  dsimp only [Solution.plain]
  split
  · split <;> rintro ⟨⟩ hlast <;> exact hlast
  · rintro ⟨⟩ hlast
    exact hlast

theorem dedupBy_eq_nil_iff {β : Type} (same : β → β → Bool) (xs : List β) :
    dedupBy same xs = [] ↔ xs = [] := by
  cases xs with
  | nil => simp [dedupBy]
  | cons x xs =>
      rw [dedupBy]
      split
      · simp
      · split <;> simp

theorem endsInAnswer_of_exponentialQuadratic {d : ExponentialQuadraticDetail α} {values : List α}
    (hdetail : s.detail = .exponentialQuadratic d)
    (hset : s.set = (exponentialQuadraticSet d.uRoots values).2)
    (hvalues : values = [] ↔ d.kept = [])
    (hrejected : d.rejected = d.uRoots.filter fun u => !decide (tolerance < u))
    (hkept : (d.uRoots.filter fun u => !d.rejected.contains u) = d.kept) :
    s.EndsInAnswer .exponentialQuadratic := by
  have houtline : s.outline .exponentialQuadratic = Step.ofExponentialQuadratic d s.set := by
    unfold Solution.outline
    rw [hdetail]
  have hempty : s.set = .empty ↔ d.kept = [] := by
    rw [hset]
    obtain ⟨hset, hroots | hnone⟩ | ⟨hset, hsome⟩ :=
      exponentialQuadraticSet_cases d.uRoots values
    · simp [hset, Step.kept_eq_nil_of_isEmpty (List.isEmpty_iff.mpr hroots)]
    · simp [hset, hvalues.mp hnone]
    · simp [hset, mt hvalues.mpr hsome]
  constructor
  · intro text htext
    refine Step.EndsIn.numberFrom ?_ 1
    rw [houtline]
    unfold Solution.answerText? at htext
    obtain ⟨hset', -⟩ | ⟨hset', hsome⟩ := exponentialQuadraticSet_cases d.uRoots values
    · rw [hset, hset'] at htext
      cases htext
    · have hlast := Step.endsIn_ofExponentialQuadratic s.set hkept (mt hvalues.mpr hsome)
      rw [hset, hset'] at htext hlast ⊢
      cases htext
      exact hlast
  · intro e he
    obtain rfl : d = e := Detail.exponentialQuadratic.inj (hdetail.symm.trans he)
    rw [Solution.steps, houtline]
    exact (Step.keeps_ofExponentialQuadratic s.set hrejected hkept hempty).numberFrom 1

/-- Looking numbers up by equality finds those on the same side of the tolerance. -/
theorem filter_not_contains {us : List Float} (h : ∀ u ∈ us, u.isNaN = false) :
    (us.filter fun u => !(us.filter fun v => !decide (tolerance < v)).contains u) =
      us.filter fun u => decide (tolerance < u) := by
  refine List.filter_congr fun u hu => ?_
  rw [List.contains_eq_any_beq]
  by_cases hlt : (tolerance : Float) < u
  · have hnone : ((us.filter fun v => !decide (tolerance < v)).any fun v => u == v) = false := by
      rw [List.any_eq_false]
      intro v hv hbeq
      have hv : ¬ (tolerance : Float) < v := by simpa using (List.mem_filter.mp hv).2
      exact hv ((Double.tolerance_lt_iff_of_beq hbeq).mp hlt)
    simp [hnone, hlt]
  · have hself : ((us.filter fun v => !decide (tolerance < v)).any fun v => u == v) = true := by
      rw [List.any_eq_true]
      exact ⟨u, List.mem_filter.mpr ⟨hu, by simpa using hlt⟩,
        Double.beq_self_of_isNaN_eq_false (h u hu)⟩
    simp [hself, hlt]

theorem endsInAnswer_solveExponentialQuadratic {p : Params Float} {s : Solution Float}
    (hp : p.IsFinite) (h : solveExponentialQuadratic p = .ok s) :
    s.EndsInAnswer .exponentialQuadratic := by
  simp only [solveExponentialQuadratic, bind_eq_ok_iff, List.partition_eq_filter_filter] at h
  obtain ⟨base, -, ln, -, ⟨delta, roots⟩, hroots, h⟩ := h
  obtain ⟨hlead, -, rfl⟩ := quadraticRoots_eq_ok_iff.mp hroots
  have ha : (p.numberD "a" 1).isFinite = true := hp.numberD "a" rfl
  have hb : (p.numberD "b" 0).isFinite = true := hp.numberD "b" rfl
  cases h
  refine endsInAnswer_of_exponentialQuadratic rfl rfl ?_ rfl (filter_not_contains ?_)
  · rw [dedup, dedupBy_eq_nil_iff, sort, ← List.length_eq_zero_iff, List.length_mergeSort,
      List.length_eq_zero_iff, List.map_eq_nil_iff]
    rfl
  · exact isNaN_real_rootsOf (isAbove_of_checkLeading ha hlead) ha hb _

end Solve

open Solve

/-- For finite parameters the worked solution of every problem that has an answer ends in it. -/
theorem endsInAnswer_of_solveKind (kind : Kind) {p : Params Float} (hp : p.IsFinite)
    {s : Solution Float} (h : solveKind kind p = .ok s) : s.EndsInAnswer kind := by
  cases kind with
  | standardQuadratic => exact endsInAnswer_solveQuadratic (.inl rfl) h
  | quadraticFormula => exact endsInAnswer_solveQuadratic (.inr rfl) h
  | factoringQuadratic => exact endsInAnswer_solveFactoring h
  | completingSquare => exact endsInAnswer_solveCompletingSquare h
  | quadraticInequality => exact endsInAnswer_solveQuadraticInequality h
  | projectileMotion => exact endsInAnswer_solveProjectile h
  | quadraticOptimization => exact endsInAnswer_solveVertex h
  | linearInequality => exact endsInAnswer_solveLinearInequality h
  | exponentialInequality => exact endsInAnswer_solveExponentialInequality h
  | exponentialQuadratic => exact endsInAnswer_solveExponentialQuadratic hp h
  | simpleExponential => exact endsInAnswer_solveSimpleExponential h
  | naturalExponential => exact endsInAnswer_solveNaturalExponential h
  | logarithmicEquation => exact endsInAnswer_solveLogarithmic h
  | compoundInterest => exact endsInAnswer_solveGrowth (.inl rfl) h
  | exponentialGrowth => exact endsInAnswer_solveGrowth (.inr (.inl rfl)) h
  | exponentialDecay => exact endsInAnswer_solveGrowth (.inr (.inr rfl)) h
  | halfLife => exact endsInAnswer_solveHalfLife h
  | simpleLinear => exact endsInAnswer_solveLinear h
  | linearSystem => exact endsInAnswer_solveSystem h

/-- The coefficients of `x² - 5x + 6`. -/
def twoAndThree : Params Float :=
  ⟨[("a", .number 1), ("b", .number (-5)), ("c", .number 6)]⟩

theorem isFinite_twoAndThree : twoAndThree.IsFinite :=
  Params.isFinite_of_entries (by decide +kernel)

theorem endsInAnswer_twoAndThree : twoAndThree.IsFinite ∧
    ∃ s, solveKind .standardQuadratic twoAndThree = .ok s ∧
      s.answerText? .standardQuadratic = some "x = 2 or x = 3" ∧
      s.EndsInAnswer .standardQuadratic := by
  refine ⟨isFinite_twoAndThree, ?_⟩
  have htext : (solveKind .standardQuadratic twoAndThree).toOption.bind
      (Solution.answerText? · .standardQuadratic) = some "x = 2 or x = 3" := by
    decide +kernel
  cases hs : solveKind .standardQuadratic twoAndThree with
  | error e => simp [hs, Except.toOption] at htext
  | ok s =>
      refine ⟨s, rfl, by simpa [hs, Except.toOption] using htext, ?_⟩
      exact endsInAnswer_of_solveKind .standardQuadratic isFinite_twoAndThree hs

end EquationTutor
