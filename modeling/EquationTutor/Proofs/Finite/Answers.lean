import EquationTutor.Proofs.Finite.Strategies
import EquationTutor.Proofs.Finite.Projectile
import EquationTutor.Proofs.Double.Overflow
/-!
Finite parameters do not make finite answers: a number may overflow on the way, and no solver
looks at what it has computed before it gives its answer. For each method it can be told from the
detail whether that has happened.
-/

namespace EquationTutor

open Scalar Solve Double

section Range

variable (m a b c h : Float)

/-- `m x + b = c` leaves no number to compute, or `x` within the range of the doubles. -/
def BoundaryInRange : Prop :=
  isZero m = true ∨
    WithinRange c b (rational c - rational b) ∧ QuotientWithinRange (c - b) m

/-- The value `a h² + b h + c` is computed within the range of the doubles. -/
def ValueInRange : Prop :=
  WithinRange (a * h) h (rational (a * h) * rational h) ∧
    WithinRange b h (rational b * rational h) ∧
      WithinRange (a * h * h) (b * h) (rational (a * h * h) + rational (b * h)) ∧
        WithinRange (a * h * h + b * h) c (rational (a * h * h + b * h) + rational c)

variable {m a b c h}

theorem boundaryInRange_iff :
    BoundaryInRange m b c ↔ isZero m = true ∨ ((c - b) / m).isFinite = true := by
  rw [isFinite_quotient_iff, BoundaryInRange]
  refine or_congr_right ⟨And.right, fun hquotient => ⟨?_, hquotient⟩⟩
  exact isFinite_sub_iff.mp hquotient.dividend

theorem isFinite_value_iff : (a * h * h + b * h + c).isFinite = true ↔ ValueInRange a b c h := by
  constructor
  · intro hvalue
    have hsum := isFinite_add_iff.mp hvalue
    have hterms := isFinite_add_iff.mp hsum.left
    exact ⟨isFinite_mul_iff.mp hterms.left, isFinite_mul_iff.mp hterms.right, hterms, hsum⟩
  · rintro ⟨-, -, -, hsum⟩
    exact isFinite_add_iff.mpr hsum

end Range

section Growth

variable (law : GrowthLaw Float) (trend : Trend) (ratio : Float)

/-- The time of a growth is computed within the range of the doubles. -/
def TimeInRange (rate : Float) : Prop :=
  ∀ u, logPerUnit law trend rate = .ok u → QuotientWithinRange (Float.log ratio) u

/-- The rate of a growth is computed within the range of the doubles. -/
def RateInRange (time : Float) : Prop :=
  match law with
  | .periodic n =>
    let w := Float.pow ratio (1 / (n * time))
    let m : Float := trend.sign * n
    WithinRange w 1 (rational w - rational 1) ∧
      WithinRange m (w - 1) (rational m * rational (w - 1))
  | .continuous => QuotientWithinRange (Float.log ratio) (trend.sign * time)

end Growth

/-- The quantity solved for is computed from the other three within the range of the doubles. -/
def GrowthDetail.InRange (d : GrowthDetail Float) : Prop :=
  let f := growthFactor d.law d.trend d.rate d.time
  match d.solvedFor with
  | .principal => QuotientWithinRange d.finalAmount f
  | .finalAmount => WithinRange d.principal f (rational d.principal * rational f)
  | .rate => RateInRange d.law d.trend d.factor d.time
  | .time => TimeInRange d.law d.trend d.factor d.rate

/-- The amount, or the rate constant, is computed within the range of the doubles. -/
def HalfLifeDetail.InRange (d : HalfLifeDetail Float) : Prop :=
  match d.initial, d.time with
  | some initial, some t =>
    let f := Float.exp (d.trend.sign * d.k * t)
    WithinRange initial f (rational initial * rational f)
  | _, _ => QuotientWithinRange lnTwo d.characteristicTime

/-- No infinity and nothing that is no number has got into the answer. A method that goes
through a discriminant has lost its roots with it, but for the roots that are left out of the
answer anyway: critical points that no piece of the answer touches, and times before launch. In
the other methods it is the last operations that have to stay within the range of the doubles.
Logarithms, exponentials and powers are primitive, so their results stand for themselves. -/
def Detail.IsTame : Detail Float → Prop
  | .quadratic d => d.discriminant.isFinite = true
  | .factoring d => d.quadratic.discriminant.isFinite = true
  | .completingSquare d => d.remainder.isFinite = true
  | .quadraticInequality d =>
    d.discriminant.isFinite = true ∨ ¬ 1e-10 < d.discriminant ∨ d.relation = .lt ∨
      d.relation = .gt
  | .projectile d =>
    match d.targetDiscriminant with
    | some delta => delta.isFinite = true ∨ d.initialVelocity < 0
    | none => d.maxHeight.isFinite = true
  | .vertexAnalysis d =>
    ValueInRange d.quadratic.a d.quadratic.b d.quadratic.c d.quadratic.vertex.x
  | .linearInequality d => BoundaryInRange d.m d.b d.c
  | .exponentialInequality d =>
    d.bound / d.coefficient ≤ 0 ∨
      QuotientWithinRange (Float.log (d.bound / d.coefficient)) d.lnBase
  | .exponentialQuadratic d =>
    ∀ u ∈ d.uRoots, 1e-10 < u → QuotientWithinRange (Float.log u) (Float.log d.base)
  | .exponential d =>
    QuotientWithinRange (Float.log d.isolated) (if d.natural then d.rate else Float.log d.base)
  | .logarithmic d => (Float.pow d.base d.result).isFinite = true
  | .growth d => d.InRange
  | .halfLife d => d.InRange
  | .linear d => BoundaryInRange d.m d.b d.c
  | .system d =>
    isZero d.determinant = true ∨
      QuotientWithinRange d.detX d.determinant ∧ QuotientWithinRange d.detY d.determinant

namespace Solve

variable {kind : Kind} {p : Params Float} {s : Solution Float}

section Quadratic

theorem isFinite_roots_iff {a b c delta : Float} {roots : QuadraticRoots Float} {kind : Kind}
    (hp : p.IsFinite) (h : quadraticCoefficients p kind = .ok (a, b, c))
    (hroots : quadraticRoots a b c = .ok (delta, roots)) :
    roots.toSet.IsFinite ↔ delta.isFinite = true := by
  obtain ⟨ha, hb, hc⟩ := isFinite_of_quadraticCoefficients hp h
  obtain ⟨hlead, rfl, rfl⟩ := quadraticRoots_eq_ok_iff.mp hroots
  exact isFinite_toSet_rootsOf_iff (isAbove_of_checkLeading ha hlead) ha hb hc

theorem isFinite_solveQuadratic_iff (hp : p.IsFinite) (h : solveQuadratic kind p = .ok s) :
    s.set.IsFinite ↔ s.detail.IsTame := by
  simp only [solveQuadratic, bind_eq_ok_iff] at h
  obtain ⟨⟨a, b, c⟩, hcoefficients, h⟩ := h
  obtain ⟨delta, roots, hroots, rfl⟩ := answer_of_solveCoefficients h
  exact isFinite_roots_iff hp hcoefficients hroots

theorem isFinite_solveFactoring_iff (hp : p.IsFinite) (h : solveFactoring p = .ok s) :
    s.set.IsFinite ↔ s.detail.IsTame := by
  simp only [solveFactoring, bind_eq_ok_iff] at h
  obtain ⟨⟨a, b, c⟩, hcoefficients, ⟨delta, roots⟩, hroots, h⟩ := h
  split at h
  · rename_i common x y hfactors
    obtain ⟨ha, hb, hc⟩ := isFinite_of_quadraticCoefficients hp hcoefficients
    obtain ⟨-, rfl, -⟩ := quadraticRoots_eq_ok_iff.mp hroots
    obtain ⟨hsearchable, hfactors⟩ := Option.ite_none_right_eq_some.mp hfactors
    simp only [Bool.and_eq_true] at hsearchable
    obtain ⟨⟨ha', hb'⟩, hc'⟩ := hsearchable
    -- whole coefficients within the bound of the search: neither side can overflow
    have hbelow := isBelow_of_isSearchable hb hb'
    have hbelow' := isBelow_of_isSearchable hc hc'
    cases h
    refine iff_of_true (isFinite_factoredSolution hbelow hbelow' hfactors) ?_
    exact isFinite_discriminant ((isBelow_of_isSearchable ha ha').mono (by decide))
      (hbelow.mono (by decide)) (hbelow'.mono (by decide))
  · obtain ⟨t, ht, h⟩ := bind_eq_ok_iff.mp h
    obtain ⟨delta', roots', hroots', rfl⟩ := answer_of_solveCoefficients ht
    cases hroots.symm.trans hroots'
    cases h
    exact isFinite_roots_iff hp hcoefficients hroots

theorem isFinite_solveCompletingSquare_iff (h : solveCompletingSquare p = .ok s) :
    s.set.IsFinite ↔ s.detail.IsTame := by
  simp only [solveCompletingSquare, bind_eq_ok_iff] at h
  obtain ⟨⟨a, b, c⟩, -, -, -, h⟩ := h
  cases h
  exact isFinite_toSet_rootsOfSquare_iff

theorem isFinite_solveQuadraticInequality_iff (hp : p.IsFinite)
    (h : solveQuadraticInequality p = .ok s) : s.set.IsFinite ↔ s.detail.IsTame := by
  simp only [solveQuadraticInequality, bind_eq_ok_iff] at h
  obtain ⟨⟨a, b, c⟩, hcoefficients, r, -, ⟨delta, roots⟩, hroots, h⟩ := h
  obtain ⟨ha, hb, hc⟩ := isFinite_of_quadraticCoefficients hp hcoefficients
  obtain ⟨hlead, rfl, rfl⟩ := quadraticRoots_eq_ok_iff.mp hroots
  cases h
  exact isFinite_solveByTestPoints_iff (isAbove_of_checkLeading ha hlead) ha hb hc r

theorem isFinite_solveVertex_iff (h : solveVertex p = .ok s) :
    s.set.IsFinite ↔ s.detail.IsTame := by
  obtain ⟨a, b, c, delta, roots, -, d, hquadratic, -, -, hset, -, hdetail⟩ :=
    answer_of_solveVertex h
  rw [hset, hdetail, Detail.IsTame, ← isFinite_value_iff, hquadratic]
  exact List.forall_mem_singleton

end Quadratic

section Projectile

theorem gravityOf_cases (hp : p.IsFinite) :
    (gravityOf p).isFinite = true ∧ 1e-10 < gravityOf p := by
  unfold gravityOf
  cases hgiven : (p.number? "gravity").filter fun g => decide (tolerance < g) with
  | none =>
      rw [Option.getD_none]
      cases unitsOf p <;> decide +kernel
  | some g =>
      obtain ⟨hg, hlt⟩ := Option.filter_eq_some_iff.mp hgiven
      exact ⟨hp "gravity" g hg, of_decide_eq_true hlt⟩

theorem isFinite_solveProjectile_iff (hp : p.IsFinite) (h : solveProjectile p = .ok s) :
    s.set.IsFinite ↔ s.detail.IsTame := by
  obtain ⟨hfinite, hpositive⟩ := gravityOf_cases hp
  have hv : (p.numberD "initial_velocity" 0).isFinite = true := hp.numberD "initial_velocity" rfl
  simp only [solveProjectile] at h
  split at h
  · cases h
  · obtain ⟨⟨_, landings⟩, -, h⟩ := bind_eq_ok_iff.mp h
    split at h
    · cases h
      exact List.forall_mem_singleton
    · simp only [bind_eq_ok_iff] at h
      obtain ⟨⟨delta, times⟩, htimes, ⟨label, set⟩, hanswer, h⟩ := h
      obtain ⟨hne, rfl⟩ := answer_of_targetAnswer hanswer
      obtain ⟨roots, hroots, -⟩ := timesAt_eq_ok_iff.mp htimes
      obtain ⟨-, hdelta, -⟩ := quadraticRoots_eq_ok_iff.mp hroots
      cases h
      change (∀ t ∈ times, Float.isFinite t = true) ↔ delta.isFinite = true ∨ _
      rw [hdelta]
      exact isFinite_timesAt_iff hfinite hpositive hv htimes hne

end Projectile

section Linear

theorem isFinite_isolatedSet_iff (rhs : Float) (r : Relation) :
    (isolatedSet rhs r).IsFinite ↔ rhs.isFinite = true := by
  change (∀ x ∈ (isolatedSet rhs r).writtenNumbers, Float.isFinite x = true) ↔ _
  cases r <;>
    simp [isolatedSet, SolutionSet.writtenNumbers, Interval.endPoints, Bound.endPoint?]

theorem isFinite_boundary_iff (outside holds : Bool) (boundary : Float) (r : Relation) :
    (if outside then if holds then .allReals else .empty else isolatedSet boundary r :
      SolutionSet Float).IsFinite ↔ outside = true ∨ boundary.isFinite = true := by
  cases outside with
  | true =>
      refine iff_of_true ?_ (.inl rfl)
      cases holds <;> exact fun x hx => absurd hx List.not_mem_nil
  | false => simpa using isFinite_isolatedSet_iff boundary r

theorem isFinite_solveLinearInequality_iff (h : solveLinearInequality p = .ok s) :
    s.set.IsFinite ↔ s.detail.IsTame := by
  obtain ⟨m, b, c, r, -, rfl⟩ := answer_of_solveLinearInequality h
  exact (isFinite_boundary_iff _ _ _ _).trans boundaryInRange_iff.symm

theorem isFinite_solveLinear_iff (h : solveLinear p = .ok s) :
    s.set.IsFinite ↔ s.detail.IsTame := by
  obtain ⟨m, b, c, rfl⟩ := answer_of_solveLinear h
  simp only [linearSet, Solution.plain, Detail.IsTame, boundaryInRange_iff]
  cases hm : isZero m with
  | true =>
      refine iff_of_true ?_ (.inl rfl)
      rw [if_pos rfl]
      split <;> exact fun x hx => absurd hx List.not_mem_nil
  | false =>
      rw [if_neg Bool.false_ne_true, or_iff_right Bool.false_ne_true]
      exact List.forall_mem_singleton

theorem isFinite_solveSystem_iff (h : solveSystem p = .ok s) :
    s.set.IsFinite ↔ s.detail.IsTame := by
  obtain ⟨a1, b1, c1, a2, b2, c2, rfl⟩ := answer_of_solveSystem h
  simp only [linearSystem, systemSet, Solution.plain, Detail.IsTame]
  cases hdeterminant : isZero (a1 * b2 - a2 * b1) with
  | true =>
      refine iff_of_true ?_ (.inl rfl)
      rw [if_pos rfl]
      split <;> exact fun x hx => absurd hx List.not_mem_nil
  | false =>
      rw [if_neg Bool.false_ne_true, or_iff_right Bool.false_ne_true, ← isFinite_quotient_iff,
        ← isFinite_quotient_iff]
      exact List.forall_mem_cons.trans (and_congr_right' List.forall_mem_singleton)

end Linear

section Exponential

theorem log_of_lnBase {base ln : Float} (h : lnBase base = .ok ln) : ln = Float.log base := by
  simp only [lnBase] at h
  split at h
  · cases h
  · split at h <;> cases h
    rfl

theorem isFinite_solveSimpleExponential_iff (h : solveSimpleExponential p = .ok s) :
    s.set.IsFinite ↔ s.detail.IsTame := by
  simp only [solveSimpleExponential, bind_eq_ok_iff] at h
  obtain ⟨k, -, base, -, result, -, ln, hln, h⟩ := h
  split at h <;> cases h
  rw [log_of_lnBase hln]
  exact List.forall_mem_singleton.trans isFinite_quotient_iff

theorem isFinite_solveNaturalExponential_iff (h : solveNaturalExponential p = .ok s) :
    s.set.IsFinite ↔ s.detail.IsTame := by
  simp only [solveNaturalExponential, bind_eq_ok_iff] at h
  obtain ⟨k, -, result, -, h⟩ := h
  split at h
  · cases h
  · split at h <;> cases h
    exact List.forall_mem_singleton.trans isFinite_quotient_iff

theorem isFinite_solveLogarithmic_iff (h : solveLogarithmic p = .ok s) :
    s.set.IsFinite ↔ s.detail.IsTame := by
  simp only [solveLogarithmic, bind_eq_ok_iff] at h
  obtain ⟨ln, -, result, -, h⟩ := h
  cases h
  exact List.forall_mem_singleton

theorem isFinite_solveExponentialInequality_iff (h : solveExponentialInequality p = .ok s) :
    s.set.IsFinite ↔ s.detail.IsTame := by
  obtain ⟨k, base, bound, ln, r, -, -, -, rfl⟩ := answer_of_solveExponentialInequality h
  refine (isFinite_boundary_iff _ _ _ _).trans ?_
  exact or_congr decide_eq_true_iff isFinite_quotient_iff

theorem isFinite_exponentialQuadraticSet_iff {us values : List Float}
    (h : us = [] → values = []) :
    (exponentialQuadraticSet us values).2.IsFinite ↔ ∀ x ∈ values, isFinite x = true := by
  obtain ⟨hset, hnone⟩ | ⟨hset, -⟩ := exponentialQuadraticSet_cases us values <;> rw [hset]
  · rw [hnone.elim h id]
    rfl
  · rfl

theorem isFinite_solveExponentialQuadratic_iff (h : solveExponentialQuadratic p = .ok s) :
    s.set.IsFinite ↔ s.detail.IsTame := by
  simp only [solveExponentialQuadratic, bind_eq_ok_iff, List.partition_eq_filter_filter] at h
  obtain ⟨base, -, ln, hln, ⟨delta, roots⟩, -, h⟩ := h
  obtain rfl := log_of_lnBase hln
  cases h
  refine (isFinite_exponentialQuadraticSet_iff ?_).trans ?_
  · intro hnone
    rw [hnone, List.filter_nil, List.map_nil, sort, List.mergeSort_nil]
    rfl
  · rw [isFinite_dedup_iff, sort]
    simp only [List.mem_mergeSort, List.forall_mem_map, List.mem_filter, decide_eq_true_eq, and_imp]
    exact forall₂_congr fun u _ => imp_congr_right fun _ => isFinite_quotient_iff

end Exponential

section Growth

variable {law : GrowthLaw Float} {trend : Trend} {ratio rate time : Float}

theorem isFinite_iff_of_solveTime (h : solveTime law trend ratio rate = .ok time) :
    time.isFinite = true ↔ TimeInRange law trend ratio rate := by
  unfold solveTime at h
  split at h
  · cases h
  · obtain ⟨u, hu, h⟩ := bind_eq_ok_iff.mp h
    split at h <;> cases h
    simp only [TimeInRange, hu, Except.ok.injEq, forall_eq']
    exact isFinite_quotient_iff

theorem isFinite_iff_of_solveRate (h : solveRate law trend ratio time = .ok rate) :
    rate.isFinite = true ↔ RateInRange law trend ratio time := by
  unfold solveRate at h
  split at h
  · cases h
  · split at h
    · cases h
    · cases law with
      | periodic n =>
          cases h
          refine isFinite_mul_iff.trans ⟨fun hproduct => ⟨?_, hproduct⟩, And.right⟩
          exact isFinite_sub_iff.mp hproduct.right
      | continuous =>
          cases h
          exact isFinite_quotient_iff

theorem isFinite_growthSolution_iff {principal finalAmount rate time : Option Float}
    {v : GrowthValues Float}
    (h : completeGrowth kind law trend principal finalAmount rate time = .ok v) :
    (growthSolution kind law trend v).set.IsFinite ↔
      (growthSolution kind law trend v).detail.IsTame := by
  refine List.forall_mem_singleton.trans ?_
  unfold completeGrowth at h
  split at h
  · rename_i p a r
    cases ht : solveTime law trend (a / p) r with
    | error e => simp [ht, Except.map] at h
    | ok t =>
        cases (congrArg _ ht).symm.trans h
        exact isFinite_iff_of_solveTime ht
  · rename_i p a t
    cases hr : solveRate law trend (a / p) t with
    | error e => simp [hr, Except.map] at h
    | ok r =>
        cases (congrArg _ hr).symm.trans h
        exact isFinite_iff_of_solveRate hr
  · dsimp only at h
    split at h <;> cases h
    exact isFinite_quotient_iff
  · cases h
    exact isFinite_mul_iff
  · cases h

theorem isFinite_solveGrowth_iff (h : solveGrowth kind p = .ok s) :
    s.set.IsFinite ↔ s.detail.IsTame := by
  simp only [solveGrowth, bind_eq_ok_iff] at h
  obtain ⟨v, hv, h⟩ := h
  split at h <;> cases h
  exact isFinite_growthSolution_iff hv

theorem isFinite_solveHalfLife_iff (h : solveHalfLife p = .ok s) :
    s.set.IsFinite ↔ s.detail.IsTame := by
  simp only [solveHalfLife, bind_eq_ok_iff] at h
  obtain ⟨⟨trend, t⟩, -, h⟩ := h
  split at h
  · cases h
  · generalize p.number? "initial" = initial, p.number? "time" = time at h
    split at h
    · cases h
      exact List.forall_mem_singleton.trans isFinite_mul_iff
    · rename_i hgiven
      cases h
      refine List.forall_mem_singleton.trans ?_
      change _ ↔ HalfLifeDetail.InRange _
      unfold HalfLifeDetail.InRange
      split
      · rename_i hinitial htime
        exact (hgiven _ _ hinitial htime).elim
      · exact isFinite_quotient_iff

end Growth

end Solve

open Solve

/-- For finite parameters the numbers of the answer are finite, and none of them is written as a
null, just if nothing has overflowed into it. -/
theorem isFinite_of_solveKind_iff (kind : Kind) {p : Params Float} (hp : p.IsFinite)
    {s : Solution Float} (h : solveKind kind p = .ok s) :
    (s.set.IsFinite ↔ s.detail.IsTame) ∧ (¬ s.set.toJson.HasNull ↔ s.detail.IsTame) := by
  have hset : s.set.IsFinite ↔ s.detail.IsTame := by
    cases kind with
    | standardQuadratic => exact isFinite_solveQuadratic_iff hp h
    | quadraticFormula => exact isFinite_solveQuadratic_iff hp h
    | factoringQuadratic => exact isFinite_solveFactoring_iff hp h
    | completingSquare => exact isFinite_solveCompletingSquare_iff h
    | quadraticInequality => exact isFinite_solveQuadraticInequality_iff hp h
    | projectileMotion => exact isFinite_solveProjectile_iff hp h
    | quadraticOptimization => exact isFinite_solveVertex_iff h
    | linearInequality => exact isFinite_solveLinearInequality_iff h
    | exponentialInequality => exact isFinite_solveExponentialInequality_iff h
    | exponentialQuadratic => exact isFinite_solveExponentialQuadratic_iff h
    | simpleExponential => exact isFinite_solveSimpleExponential_iff h
    | naturalExponential => exact isFinite_solveNaturalExponential_iff h
    | logarithmicEquation => exact isFinite_solveLogarithmic_iff h
    | compoundInterest => exact isFinite_solveGrowth_iff h
    | exponentialGrowth => exact isFinite_solveGrowth_iff h
    | exponentialDecay => exact isFinite_solveGrowth_iff h
    | halfLife => exact isFinite_solveHalfLife_iff h
    | simpleLinear => exact isFinite_solveLinear_iff h
    | linearSystem => exact isFinite_solveSystem_iff h
  exact ⟨hset, (SolutionSet.not_hasNull_toJson_iff s.set).trans hset⟩

/-- The coefficients of `3x + 4 = 10`. -/
def threeXPlusFour : Params Float :=
  ⟨[("b", .number 4), ("c", .number 10), ("m", .number 3)]⟩

theorem isFinite_threeXPlusFour : threeXPlusFour.IsFinite ∧
    ∃ s, solveKind .simpleLinear threeXPlusFour = .ok s ∧ s.detail.IsTame ∧
      s.set.IsFinite ∧ ¬ s.set.toJson.HasNull := by
  have hp : threeXPlusFour.IsFinite := Params.isFinite_of_entries (by decide +kernel)
  have hnumbers : (solveKind .simpleLinear threeXPlusFour).toOption.map
      (fun s => s.set.writtenNumbers.all isFinite) = some true := by
    decide +kernel
  cases hs : solveKind .simpleLinear threeXPlusFour with
  | error e => simp [hs, Except.toOption] at hnumbers
  | ok s =>
      have hset : s.set.IsFinite := by
        simpa [hs, Except.toOption, SolutionSet.IsFinite] using hnumbers
      obtain ⟨hiff, hnull⟩ := isFinite_of_solveKind_iff .simpleLinear hp hs
      exact ⟨hp, s, rfl, hiff.mp hset, hset, hnull.mpr (hiff.mp hset)⟩

/-- The coefficients of `2x - 1e308 = 1e308`, of which `1e308` is the solution. -/
def greatTerms : Params Float :=
  ⟨[("b", .number (-1e308)), ("c", .number 1e308), ("m", .number 2)]⟩

/-- The difference of the terms overflows before it is divided. -/
theorem hasNull_greatTerms : greatTerms.IsFinite ∧
    ∃ s, solveKind .simpleLinear greatTerms = .ok s ∧ ¬ s.set.IsFinite ∧
      s.set.toJson.HasNull := by
  have hp : greatTerms.IsFinite := Params.isFinite_of_entries (by decide +kernel)
  have hnumbers : (solveKind .simpleLinear greatTerms).toOption.map
      (fun s => s.set.writtenNumbers.all isFinite) = some false := by
    decide +kernel
  cases hs : solveKind .simpleLinear greatTerms with
  | error e => simp [hs, Except.toOption] at hnumbers
  | ok s =>
      have hset : ¬ s.set.IsFinite := by
        simpa [hs, Except.toOption, SolutionSet.IsFinite] using hnumbers
      refine ⟨hp, s, rfl, hset, ?_⟩
      by_contra hnull
      exact hset ((SolutionSet.not_hasNull_toJson_iff s.set).mp hnull)

end EquationTutor
