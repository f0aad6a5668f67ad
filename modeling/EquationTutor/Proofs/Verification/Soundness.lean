import EquationTutor.Numeric.Double
import EquationTutor.Proofs.Exact.Numbers
import EquationTutor.Proofs.Verification.Confidence
import EquationTutor.Solve.Dispatch
/-!
What high confidence is worth when a set of numbers is put in the place of the answer.
A number is substituted into the relation that the solution records, so a wrong one is
found out, but for two gaps: the check of a growth model never looks at the set, and a
number is put into a strict inequality as if this were an equation.
-/

namespace EquationTutor

open Scalar

variable {α : Type}

def SolutionSet.numbers : SolutionSet α → List α
  | discrete values => values
  | point x y => [x, y]
  | quantity _ value => [value]
  | complex _ | intervals _ | allReals | empty | infinite => []

/-- A list of numbers, a point or a named number. -/
def SolutionSet.ClaimsNumbers : SolutionSet α → Prop
  | discrete _ | point _ _ | quantity _ _ => True
  | complex _ | intervals _ | allReals | empty | infinite => False

def Solution.withSet (s : Solution α) (set : SolutionSet α) : Solution α :=
  { s with set := set }

def GrowthDetail.withValue (d : GrowthDetail α) (q : Quantity) (v : α) : GrowthDetail α :=
  match q with
  | .principal => { d with principal := v }
  | .finalAmount => { d with finalAmount := v }
  | .rate => { d with rate := v }
  | .time => { d with time := v }

variable [Scalar α]

namespace Verification

/-- The formula of the model gives the final amount. -/
def Balances (d : GrowthDetail α) : Prop :=
  Near (scaleOf d.finalAmount) (d.principal * Solve.growthFactor d.law d.trend d.rate d.time)
    d.finalAmount

/-- The number satisfies the relation of the claim: sides that agree within the tolerance
count as equal. -/
def Claim.Accepts (c : Claim α) (x : α) : Prop :=
  let equal := Near 1 (c.left x) c.right
  match c.relation with
  | .eq => equal
  | .ne => ¬ equal
  | .lt => c.left x < c.right ∧ ¬ equal
  | .gt => c.right < c.left x ∧ ¬ equal
  | .le => c.left x < c.right ∨ equal
  | .ge => c.right < c.left x ∨ equal

/-- Every number of the set satisfies the relation that the solution records. -/
def Meets (detail : Detail α) (set : SolutionSet α) : Prop :=
  match detail, set with
  | .growth d, set => ∀ v ∈ set.numbers, Balances (d.withValue d.solvedFor v)
  | .system d, .point x y =>
    Near 1 (d.a1 * x + d.b1 * y) d.c1 ∧ Near 1 (d.a2 * x + d.b2 * y) d.c2
  | .projectile d, .discrete times =>
    ∃ target, d.targetHeight = some target ∧ ∀ t ∈ times,
      Near (scaleOf target) (Solve.height d.gravity d.initialVelocity d.initialHeight t) target
  | .projectile d, .quantity _ v => Near (scaleOf (expectedMaxHeight d)) v (expectedMaxHeight d)
  | .vertexAnalysis d, .quantity _ v =>
    let q := d.quadratic
    Near (scaleOf v) (Solve.quadraticAt q.a q.b q.c q.vertex.x) v
  | detail, .discrete values => ∃ c, claimOf detail = some c ∧ ∀ x ∈ values, c.Accepts x
  | _, _ => False

/-- A substitution that passes satisfies an inclusive relation and no strict one. -/
theorem accepts_iff_of_near {c : Claim α} {x : α} (h : Near 1 (c.left x) c.right) :
    c.Accepts x ↔ c.relation.isInclusive = true := by
  cases hr : c.relation <;> simp [Claim.Accepts, Relation.isInclusive, hr, h]

theorem checksOf_withSet {s : Solution α} {c : Claim α} (h : claimOf s.detail = some c)
    (set : SolutionSet α) : checksOf (s.withSet set) = claimChecks s.detail c set :=
  checksOf_of_claim (s := s.withSet set) h

theorem regionChecks_eq_nil {s : Solution α} (h : s.set.ClaimsNumbers) :
    (checksOf s).2 = [] := by
  unfold checksOf
  split
  case h_5 =>
    split
    · cases hset : s.set <;> simp_all [claimChecks, SolutionSet.ClaimsNumbers]
    · rfl
  all_goals rfl

theorem high_withSet_iff (s : Solution α) {set : SolutionSet α} (hset : set.ClaimsNumbers) :
    (s.withSet set).verify.confidence = .high ↔
      (∀ k ∈ (checksOf (s.withSet set)).1, k.isValid = true) ∧
        (checksOf (s.withSet set)).1 ≠ [] := by
  have hregion : (checksOf (s.withSet set)).2 = [] := regionChecks_eq_nil hset
  simp [Solution.confidence_verify_eq_high_iff, Passes, hregion]

section Claims

variable {s : Solution α} {c : Claim α} (hclaim : claimOf s.detail = some c)
include hclaim

theorem meets_discrete_iff (values : List α) :
    Meets s.detail (.discrete values) ↔ ∀ x ∈ values, c.Accepts x := by
  cases hd : s.detail <;> simp_all [Meets, claimOf]

/-- A list of numbers is trusted iff both sides of the relation agree at each of them,
whatever the relation is. -/
theorem high_discrete_iff (values : List α) :
    (s.withSet (.discrete values)).verify.confidence = .high ↔
      (∀ x ∈ values, Near 1 (c.left x) c.right) ∧ values ≠ [] := by
  rw [high_withSet_iff s (by trivial), checksOf_withSet hclaim]
  simp [claimChecks]

theorem not_high_of_ne_discrete {set : SolutionSet α} (hset : set.ClaimsNumbers)
    (hdiscrete : ∀ values, set ≠ .discrete values) :
    (s.withSet set).verify.confidence ≠ .high := by
  rw [Ne, high_withSet_iff s hset, checksOf_withSet hclaim]
  cases set <;> simp_all [claimChecks, SolutionSet.ClaimsNumbers]

theorem high_imp_meets_iff_of_claim {set : SolutionSet α} (hset : set.ClaimsNumbers) :
    ((s.withSet set).verify.confidence = .high → Meets s.detail set) ↔
      ∀ values, set = .discrete values → c.relation.isInclusive = false →
        values = [] ∨ ∃ x ∈ values, ¬ Near 1 (c.left x) c.right := by
  by_cases hdiscrete : ∃ values, set = .discrete values
  · obtain ⟨values, rfl⟩ := hdiscrete
    rw [high_discrete_iff hclaim, meets_discrete_iff hclaim]
    constructor
    · rintro hsound _ ⟨⟩ hstrict
      by_contra hnot
      push Not at hnot
      obtain ⟨x, hx⟩ := List.exists_mem_of_ne_nil values hnot.1
      have := (accepts_iff_of_near (hnot.2 x hx)).mp (hsound ⟨hnot.2, hnot.1⟩ x hx)
      simp [hstrict] at this
    · rintro hcond ⟨hnear, hne⟩ x hx
      rw [accepts_iff_of_near (hnear x hx)]
      by_contra hstrict
      rcases hcond values rfl (by simpa using hstrict) with hnil | ⟨y, hy, hfar⟩
      · exact hne hnil
      · exact hfar (hnear y hy)
  · push Not at hdiscrete
    simp [not_high_of_ne_discrete hclaim hset hdiscrete, hdiscrete]

end Claims

/-- The check of a growth model does not look at the set. -/
theorem high_growth_iff {s : Solution α} {d : GrowthDetail α} (hd : s.detail = .growth d)
    {set : SolutionSet α} (hset : set.ClaimsNumbers) :
    (s.withSet set).verify.confidence = .high ↔ Balances d := by
  rw [high_withSet_iff s hset]
  simp [checksOf, Solution.withSet, hd, growthCheck, Balances]

theorem meets_of_high_of_no_claim {s : Solution α} (hclaim : claimOf s.detail = none)
    (hgrowth : ∀ d, s.detail ≠ .growth d) {set : SolutionSet α} (hset : set.ClaimsNumbers)
    (hhigh : (s.withSet set).verify.confidence = .high) : Meets s.detail set := by
  rw [high_withSet_iff s hset] at hhigh
  obtain ⟨hvalid, hne⟩ := hhigh
  cases hd : s.detail with
  | growth d => exact absurd hd (hgrowth d)
  | halfLife d => simp [checksOf, Solution.withSet, hd, claimOf] at hne
  | system d =>
      cases set <;>
        simp_all [checksOf, Solution.withSet, claimOf, Meets, systemChecks]
  | projectile d =>
      cases set <;> cases htarget : d.targetHeight <;>
        simp_all [checksOf, Solution.withSet, projectileChecks, Meets,
          SolutionSet.ClaimsNumbers]
  | vertexAnalysis d =>
      cases set <;>
        simp_all [checksOf, Solution.withSet, vertexChecks, Meets, SolutionSet.ClaimsNumbers]
  | _ => simp [claimOf, hd] at hclaim

/-- With numbers in the place of the answer high confidence is deserved, but for growth
models and for lists of numbers in strict inequalities. -/
theorem high_imp_meets_iff (s : Solution α) {set : SolutionSet α} (hset : set.ClaimsNumbers) :
    ((s.withSet set).verify.confidence = .high → Meets s.detail set) ↔
      (∀ d, s.detail = .growth d → Balances d →
        ∀ v ∈ set.numbers, Balances (d.withValue d.solvedFor v)) ∧
      ∀ c values, claimOf s.detail = some c → set = .discrete values →
        c.relation.isInclusive = false →
          values = [] ∨ ∃ x ∈ values, ¬ Near 1 (c.left x) c.right := by
  cases hclaim : claimOf s.detail with
  | some c =>
      have hgrowth (d : GrowthDetail α) : s.detail ≠ .growth d := by
        intro hd
        simp [hd, claimOf] at hclaim
      rw [high_imp_meets_iff_of_claim hclaim hset]
      simp only [hgrowth, false_implies, implies_true, true_and, Option.some.injEq]
      constructor
      · rintro hcond _ values rfl
        exact hcond values
      · intro hcond values
        exact hcond c values rfl
  | none =>
      by_cases hgrowth : ∃ d, s.detail = .growth d
      · obtain ⟨d, hd⟩ := hgrowth
        rw [high_growth_iff hd hset]
        simp [hd, Meets]
      · push Not at hgrowth
        have hsound := meets_of_high_of_no_claim hclaim hgrowth hset
        simpa [hgrowth] using hsound

/-- The system `2x + 3y = 7`, `x - y = 1` among doubles. -/
@[irreducible] def crossingLines : Solution Float :=
  Solve.linearSystem 2 3 7 1 (-1) 1

theorem meets_of_high_point :
    (SolutionSet.point (2 : Float) 1).ClaimsNumbers ∧
      (crossingLines.withSet (.point 2 1)).verify.confidence = .high ∧
      Meets crossingLines.detail (.point 2 1) := by
  have hset : (SolutionSet.point (2 : Float) 1).ClaimsNumbers := True.intro
  have hhigh : (crossingLines.withSet (.point 2 1)).verify.confidence = .high := by
    decide +kernel
  have hsound := (high_imp_meets_iff crossingLines hset).mpr
    ⟨by simp [crossingLines, Solve.linearSystem, Solution.plain], by simp⟩
  exact ⟨hset, hhigh, hsound hhigh⟩

/-- 1000 that grow by 5 per cent once. -/
noncomputable def growthParams : Params ℝ :=
  ⟨[("principal", .number 1000), ("rate", .number 0.05), ("time", .number 1)]⟩

/-- The amount in the end. -/
noncomputable def grownAmount : ℝ :=
  1000 * Solve.growthFactor (.periodic 1) .growth 0.05 1

theorem grownAmount_eq : grownAmount = 1050 := by
  have hfactor : Solve.growthFactor (.periodic (1 : ℝ)) .growth 0.05 1 = 1.05 := by
    simp only [Solve.growthFactor, Trend.sign, Exact.one_eq, Exact.pow_eq]
    norm_num
  rw [grownAmount, hfactor]
  norm_num

theorem solve_growthParams :
    (Problem.ofParams .exponentialGrowth growthParams).solve =
      .ok (Solve.growthSolution .exponentialGrowth (.periodic 1) .growth
        ⟨.finalAmount, 1000, grownAmount, 0.05, 1⟩) := by
  simp [Problem.solve, Problem.ofParams, solveKind, Solve.solveGrowth, growthParams,
    Params.number?, Params.get?, List.lookup_cons, ParamValue.toNumber, Solve.completeGrowth,
    Solve.trendOf, Solve.lawFor, Solve.saysContinuous, Params.text?, bind, Except.bind]
  exact if_neg (by norm_num)

/-- That this comes to nothing is told with high confidence. -/
theorem high_for_lost_amount :
    ∃ s, (Problem.ofParams .exponentialGrowth growthParams).solve = .ok s ∧
      (s.withSet (.quantity "A" 0)).verify.confidence = .high ∧
      ¬ Meets s.detail (.quantity "A" 0) := by
  refine ⟨_, solve_growthParams, ?_, ?_⟩
  · rw [high_growth_iff rfl (by trivial)]
    change absValue (grownAmount - grownAmount) / scaleOf grownAmount < checkTolerance
    simpa using Exact.checkTolerance_pos
  · intro h
    have hscale : scaleOf (0 : ℝ) = 1 := by simp [scaleOf]
    have hzero : absValue (grownAmount - 0) / scaleOf (0 : ℝ) < checkTolerance :=
      h 0 (by simp [SolutionSet.numbers])
    rw [hscale, Exact.checkTolerance_eq, Exact.absValue_eq, grownAmount_eq] at hzero
    norm_num at hzero

end Verification

end EquationTutor
