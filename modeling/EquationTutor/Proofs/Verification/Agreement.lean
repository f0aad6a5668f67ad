import EquationTutor.Proofs.Double.Order
import EquationTutor.Proofs.Exact.Solved
import EquationTutor.Proofs.Inequality.Cells
import EquationTutor.Proofs.Verification.IsolatedInequality
import EquationTutor.Proofs.Verification.TestPoints
/-!
Solver and checks on the same inequality. Both count small values as 0, but the checks do so
up to a larger tolerance, and in doubles they put rounded numbers into rounded sides, so that an
answer which is right can be told with low confidence.
-/

namespace EquationTutor

/-- Whether `x` is related to `q` by plain comparison. -/
def Relation.admits {α : Type} [Scalar α] (r : Relation) (x q : α) : Bool :=
  match r with
  | .eq => x == q
  | .ne => x < q || q < x
  | .lt => x < q
  | .gt => q < x
  | .le => x ≤ q
  | .ge => q ≤ x

namespace Verification

open Scalar Solve

section Confirmed

variable {α : Type} [Scalar α]

/-- The points at which rays with the end `q` are tested: one step inside each of them, and then
the first point outside of those one step beside `q`; of 0, where `q` has overflowed. -/
def testedBeside (q : α) (r : Relation) : List α :=
  let inside :=
    match r with
    | .eq => []
    | .ne => [q - 1, q + 1]
    | .lt | .le => [q - 1]
    | .gt | .ge => [q + 1]
  let beside := if isFinite q then [q - 1, q + 1] else [0]
  inside ++ (beside.find? fun x => !r.admits x q).toList

/-- A boundary is confirmed as a number if it leaves a small residual, and as the end of rays if
the relation is found to hold at just those tested points that lie on them. -/
def ConfirmedBeside (c : Claim α) (q : α) (isolated : Relation) : Prop :=
  if isolated = .eq then Near 1 (c.left q) c.right
  else ∀ x ∈ testedBeside q isolated, (isolated.admits x q = true ↔ c.holds x = true)

theorem solveByTestPoints_eq_intervals {critical : List α} {r : Relation} {f : α → α}
    (hall : ¬ ∀ cell ∈ testedCells r f .negInfinity critical, cell.satisfies = true)
    (hnone : ¬ ∀ cell ∈ testedCells r f .negInfinity critical, cell.satisfies = false) :
    (solveByTestPoints critical r f).1 =
      .intervals (mergeCells none (testedCells r f .negInfinity critical)) := by
  rw [← set_eq_allReals_iff] at hall
  rw [← set_eq_empty_iff] at hnone
  change setOfIntervals (mergeCells none (testedCells r f .negInfinity critical)) = _
  change setOfIntervals (mergeCells none (testedCells r f .negInfinity critical)) ≠ _ at hall hnone
  rw [Ne, setOfIntervals_eq_allReals_iff] at hall
  rw [Ne, setOfIntervals_eq_empty_iff] at hnone
  rcases hruns : mergeCells none (testedCells r f .negInfinity critical) with
    _ | ⟨⟨lower, upper⟩, _ | ⟨j, js⟩⟩
  · exact absurd hruns hnone
  · rw [hruns] at hall
    cases lower <;> cases upper <;> simp_all [setOfIntervals, Interval.isLine]
  · rfl

variable {q : α} {r : Relation}

theorem exists_contains_isolatedPieces_iff (hr : r ≠ .eq) (x : α) :
    (∃ i ∈ isolatedPieces q r, i.contains x = true) ↔ r.admits x q = true := by
  cases r <;> simp_all [isolatedPieces, Relation.admits, Interval.contains, Bound.isBelow,
    Bound.isAbove]

/-- When the answer to an inequality is confirmed, by what the solver recorded. What it found
of both sides, of the boundary or of each piece of the line is compared with what the checks
find, whose tolerance is ten times as large, at the points where they look. -/
def Confirmed : Detail α → Prop
  | .linearInequality d =>
    let c : Claim α := ⟨fun x => d.m * x + d.b, d.c, d.relation⟩
    if isZero d.m then ConfirmedThroughout c (d.relation.holds d.b d.c = true)
    else ConfirmedBeside c ((d.c - d.b) / d.m) (if d.m < 0 then d.relation.flip else d.relation)
  | .exponentialInequality d =>
    let c : Claim α := ⟨fun x => d.coefficient * pow d.base x, d.bound, d.relation⟩
    let divided := if d.coefficient < 0 then d.relation.flip else d.relation
    if d.bound / d.coefficient ≤ 0 then ConfirmedThroughout c (holdsForPositive divided = true)
    else ConfirmedBeside c (ln (d.bound / d.coefficient) / d.lnBase)
      (if d.lnBase < 0 then divided.flip else divided)
  | .quadraticInequality d =>
    let c := quadraticClaim d.a d.b d.c d.relation
    let cells := testedCells d.relation (quadraticAt d.a d.b d.c) .negInfinity d.criticalPoints
    if ∀ cell ∈ cells, cell.satisfies = true then ConfirmedThroughout c True
    else if ∀ cell ∈ cells, cell.satisfies = false then ConfirmedThroughout c False
    else ConfirmedIn c (mergeCells none cells)
  | _ => False

section Beside

variable (hself : ∀ x : α, isFinite x = true → (x == x) = true)
  (htotal : ∀ x : α, totalLE x x = true)
include hself htotal

theorem edges_isolatedPieces (hr : r ≠ .eq) :
    edges (isolatedPieces q r) = if isFinite q then [q] else [] := by
  have hends : ((isolatedPieces q r).flatMap fun i => [i.lower, i.upper]).filterMap
      Bound.endPoint? = [q] ∨
      ((isolatedPieces q r).flatMap fun i => [i.lower, i.upper]).filterMap Bound.endPoint? =
        [q, q] := by
    cases r with
    | eq => exact absurd rfl hr
    | ne => exact Or.inr rfl
    | _ => exact Or.inl rfl
  by_cases hq : isFinite q = true
  · have hkeep : ([q].filter isFinite = [q]) ∧ [q, q].filter isFinite = [q, q] := by
      simp [hq]
    have hsort : sort [q] = [q] ∧ sort [q, q] = [q, q] := by
      constructor <;> apply List.mergeSort_of_pairwise <;> simp [htotal]
    rw [if_pos hq, edges]
    rcases hends with h | h
    · rw [h, hkeep.1, hsort.1]
      rfl
    · rw [h, hkeep.2, hsort.2, dedup, dedupBy, dedupBy, dedupBy]
      exact if_pos (hself q hq)
  · have hdrop : ([q].filter isFinite = []) ∧ [q, q].filter isFinite = [] := by
      simp [hq]
    rw [if_neg hq, edges]
    rcases hends with h | h
    · rw [h, hdrop.1, sort, List.mergeSort_nil]
      rfl
    · rw [h, hdrop.2, sort, List.mergeSort_nil]
      rfl

theorem samplePoints_isolatedPieces (hr : r ≠ .eq) :
    samplePoints (isolatedPieces q r) = testedBeside q r := by
  have hcandidates : candidates (edges (isolatedPieces q r)) =
      if isFinite q then [q - 1, q + 1] else [0] := by
    rw [edges_isolatedPieces hself htotal hr]
    split <;> rfl
  have hany (x : α) : (isolatedPieces q r).any (fun i => i.contains x) = r.admits x q := by
    rw [Bool.eq_iff_iff, List.any_eq_true, exists_contains_isolatedPieces_iff hr]
  rw [samplePoints, hcandidates]
  simp only [hany]
  cases r with
  | eq => exact absurd rfl hr
  | _ => rfl

variable {s : Solution α} {c : Claim α}

theorem passes_iff_confirmedBeside (hclaim : claimOf s.detail = some c)
    (hset : s.set = isolatedSet q r) : Passes s ↔ ConfirmedBeside c q r := by
  by_cases hr : r = .eq
  · have hvalues : s.set = .discrete [q] := by
      rw [hset, hr]
      rfl
    rw [passes_iff_near hclaim hvalues, ConfirmedBeside, if_pos hr, List.forall_mem_singleton]
  · rw [passes_iff_confirmedIn hclaim (hset.trans (isolatedSet_of_ne hr q)), ConfirmedBeside,
      if_neg hr, ConfirmedIn, samplePoints_isolatedPieces hself htotal hr]
    simp only [exists_contains_isolatedPieces_iff hr]

theorem passes_linearInequality_iff_confirmed (m b c : α) (r : Relation) :
    Passes (linearInequality m b c r) ↔ Confirmed (linearInequality m b c r).detail := by
  have hclaim : claimOf (linearInequality m b c r).detail =
      some ⟨fun x => m * x + b, c, r⟩ := rfl
  change _ ↔ if isZero m = true then _ else _
  by_cases hm : isZero m = true
  · rw [if_pos hm]
    exact passes_iff_confirmedThroughout hclaim (if_pos hm) nofun
  · rw [if_neg hm]
    refine passes_iff_confirmedBeside hself htotal hclaim ((if_neg hm).trans ?_)
    simp [hm]

theorem passes_exponentialInequality_iff_confirmed (k base bound ln : α) (r : Relation) :
    Passes (exponentialInequality k base bound ln r) ↔
      Confirmed (exponentialInequality k base bound ln r).detail := by
  have hclaim : claimOf (exponentialInequality k base bound ln r).detail =
      some ⟨fun x => k * pow base x, bound, r⟩ := rfl
  change _ ↔ if bound / k ≤ 0 then _ else _
  by_cases hbound : bound / k ≤ 0
  · rw [if_pos hbound]
    exact passes_iff_confirmedThroughout hclaim (if_pos (decide_eq_true hbound)) nofun
  · rw [if_neg hbound]
    refine passes_iff_confirmedBeside hself htotal hclaim ?_
    refine (if_neg (mt of_decide_eq_true hbound)).trans ?_
    simp

end Beside

theorem passes_quadraticInequality_iff_confirmed {p : Params α} {s : Solution α}
    (h : solveQuadraticInequality p = .ok s) : Passes s ↔ Confirmed s.detail := by
  obtain ⟨a, b, c, r, delta, roots, -, -, rfl⟩ := answer_of_solveQuadraticInequality h
  change _ ↔ if _ then _ else _
  split
  · rename_i hall
    refine passes_iff_confirmedThroughout rfl ?_ nofun
    exact (set_eq_allReals_iff.mpr hall).trans (if_pos trivial).symm
  · rename_i hall
    split
    · rename_i hnone
      refine passes_iff_confirmedThroughout rfl ?_ nofun
      exact (set_eq_empty_iff.mpr hnone).trans (if_neg id).symm
    · rename_i hnone
      refine passes_iff_confirmedIn rfl ?_
      exact solveByTestPoints_eq_intervals hall hnone

end Confirmed

/-- What is left of `Confirmed` in exact arithmetic: bounds on the coefficients. -/
def Trusted : Detail ℝ → Prop
  | .quadraticInequality d => QuadraticTrusted d.a d.b d.c d.relation
  | .linearInequality d => LinearTrusted d.m d.b d.c d.relation
  | .exponentialInequality d => ExponentialTrusted d.coefficient d.base d.bound d.relation
  | _ => False

theorem passes_exponentialInequality_iff {k base : ℝ} (hk : k ≠ 0) (hbase : 0 < base)
    (hln : Real.log base ≠ 0) (bound : ℝ) (r : Relation) :
    Passes (exponentialInequality k base bound (Real.log base) r) ↔
      ExponentialTrusted k base bound r := by
  rcases le_or_gt (bound / k) 0 with hle | hpos
  · exact passes_of_unreachable hk hbase hle r
  · exact passes_of_reachable hk hbase hln hpos r

def inequalityKinds : List Kind :=
  [.quadraticInequality, .linearInequality, .exponentialInequality]

theorem not_low_iff_confirmed {problem : Problem Float} {s : Solution Float}
    (hkind : problem.kind ∈ inequalityKinds) (hsolve : problem.solve = .ok s) :
    s.verify.confidence ≠ .low ↔ Confirmed s.detail := by
  have hself (x : Float) (hx : isFinite x = true) : (x == x) = true :=
    Double.beq_self_of_isNaN_eq_false (Double.isNaN_eq_false_of_isFinite hx)
  have htotal (x : Float) : totalLE x x = true := decide_eq_true le_rfl
  rw [Ne, Solution.confidence_verify_eq_low_iff, not_not]
  simp only [inequalityKinds, List.mem_cons, List.not_mem_nil, or_false] at hkind
  unfold Problem.solve at hsolve
  rcases hkind with hkind | hkind | hkind <;> rw [hkind] at hsolve
  · exact passes_quadraticInequality_iff_confirmed hsolve
  · obtain ⟨m, b, c, r, -, rfl⟩ := answer_of_solveLinearInequality hsolve
    exact passes_linearInequality_iff_confirmed hself htotal m b c r
  · obtain ⟨k, base, bound, ln, r, -, -, -, rfl⟩ := answer_of_solveExponentialInequality hsolve
    exact passes_exponentialInequality_iff_confirmed hself htotal k base bound ln r

theorem not_low_iff_trusted {problem : Problem ℝ} {s : Solution ℝ}
    (hkind : problem.kind ∈ inequalityKinds) (hsolve : problem.solve = .ok s) :
    s.verify.confidence ≠ .low ↔ Trusted s.detail := by
  rw [Ne, Solution.confidence_verify_eq_low_iff, not_not]
  simp only [inequalityKinds, List.mem_cons, List.not_mem_nil, or_false] at hkind
  unfold Problem.solve at hsolve
  rcases hkind with hkind | hkind | hkind <;> rw [hkind] at hsolve
  · obtain ⟨a, b, c, r, ha, rfl⟩ := exists_of_solveQuadraticInequality hsolve
    exact passes_inequalitySolution_iff ha r
  · obtain ⟨m, b, c, r, rfl⟩ := exists_of_solveLinearInequality hsolve
    exact passes_linearInequality_iff m b c r
  · obtain ⟨k, base, bound, r, hk, hbase, hln, rfl⟩ :=
      exists_of_solveExponentialInequality hsolve
    exact passes_exponentialInequality_iff hk hbase hln bound r

/-- The answer that the solver gives to an inequality is told without low confidence if and
only if it is confirmed at the points where it is tested, in doubles as they round. Without
rounding that depends on how the coefficients lie to the two tolerances. -/
theorem inequality_not_low_iff {kind : Kind} (hkind : kind ∈ inequalityKinds) :
    (∀ (problem : Problem Float) (s : Solution Float), problem.kind = kind →
      problem.solve = .ok s → (s.verify.confidence ≠ .low ↔ Confirmed s.detail)) ∧
    ∀ (problem : Problem ℝ) (s : Solution ℝ), problem.kind = kind →
      problem.solve = .ok s → (s.verify.confidence ≠ .low ↔ Trusted s.detail) := by
  constructor
  · rintro problem s rfl hsolve
    exact not_low_iff_confirmed hkind hsolve
  · rintro problem s rfl hsolve
    exact not_low_iff_trusted hkind hsolve

/-- The record of `m x op c`. -/
def slopeParams (m c : Float) (r : Relation) : Params Float :=
  ⟨[("c", .number c), ("m", .number m), ("operator", .text r.operator)]⟩

theorem exists_of_confidence {problem : Problem Float} {confidence : Confidence}
    (h : problem.solve.toOption.map (fun s => s.verify.confidence) = some confidence) :
    ∃ s, problem.solve = .ok s ∧ s.verify.confidence = confidence := by
  cases hs : problem.solve with
  | error e => simp [hs, Except.toOption] at h
  | ok s => exact ⟨s, rfl, by simpa [hs, Except.toOption] using h⟩

theorem not_low_of_four_lt_sq :
    (.linearInequality ∈ inequalityKinds ∧
      ∃ s, (Problem.ofParams .linearInequality (slopeParams 2 6 .gt)).solve = .ok s ∧
        s.verify.confidence = .high ∧ Confirmed s.detail) ∧
    .quadraticInequality ∈ inequalityKinds ∧
      ∃ s, (Problem.ofParams .quadraticInequality (inequalityParams 1 0 (-4) .gt)).solve = .ok s ∧
        s.verify.confidence ≠ .low := by
  refine ⟨⟨by decide, ?_⟩, by decide, ?_⟩
  · have hconfidence : (Problem.ofParams .linearInequality
        (slopeParams 2 6 .gt)).solve.toOption.map (fun s => s.verify.confidence) = some .high := by
      decide +kernel
    obtain ⟨s, hsolve, hhigh⟩ := exists_of_confidence hconfidence
    refine ⟨s, hsolve, hhigh, ((inequality_not_low_iff (by decide)).1 _ s rfl hsolve).mp ?_⟩
    rw [hhigh]
    decide
  · have hsolve : (Problem.ofParams .quadraticInequality (inequalityParams 1 0 (-4) .gt)).solve =
        .ok (inequalitySolution 1 0 (-4) .gt) :=
      solveQuadraticInequality_of_le (quadraticCoefficients_inequalityParams ..)
        (relation_inequalityParams ..) (by rw [Exact.tolerance_eq]; norm_num)
    refine ⟨_, hsolve, ((inequality_not_low_iff (by decide)).2 _ _ rfl hsolve).mpr ?_⟩
    change QuadraticTrusted 1 0 (-4) .gt
    norm_num [QuadraticTrusted, axisValue, discriminant_eq]

/-- The record of `base^x op bound`. -/
def powerParams (base bound : ℝ) (r : Relation) : Params ℝ :=
  ⟨[("base", .number base), ("bound", .number bound), ("operator", .text r.operator)]⟩

theorem leading_powerParams (base bound : ℝ) (r : Relation) :
    leading (powerParams base bound r) "coefficient" = .ok 1 :=
  leading_of_le rfl (by rw [Exact.tolerance_eq]; norm_num)

/-- Differences below the tolerance of the checks are told with low confidence: of a small
slope, of a residual that is left by rounding, and of the power of 10 at -10. -/
theorem low_for_small_differences :
    (∃ s, (Problem.ofParams .linearInequality (slopeParams 5e-10 0 .lt)).solve = .ok s ∧
      s.verify.confidence = .low) ∧
    (∃ s, (Problem.ofParams .linearInequality (slopeParams 11 12345678 .eq)).solve = .ok s ∧
      s.verify.confidence = .low) ∧
    ∃ s, (Problem.ofParams .exponentialInequality (powerParams 10 0 .gt)).solve = .ok s ∧
      s.set = .allReals ∧ s.verify.confidence = .low := by
  refine ⟨exists_of_confidence (by decide +kernel), exists_of_confidence (by decide +kernel), ?_⟩
  have hlog : 1 - 10⁻¹ ≤ Real.log 10 := Real.one_sub_inv_le_log_of_pos (by norm_num)
  norm_num at hlog
  have hln : Real.log 10 ≠ 0 := by linarith
  have hsolve : (Problem.ofParams .exponentialInequality (powerParams 10 0 .gt)).solve =
      .ok (exponentialInequality 1 10 0 (Real.log 10) .gt) := by
    change solveExponentialInequality _ = _
    simp only [solveExponentialInequality, bind_eq_ok_iff]
    refine ⟨1, leading_powerParams 10 0 .gt, 10, rfl, 0, rfl, .gt, rfl, Real.log 10, ?_, rfl⟩
    rw [lnBase_eq_ok_iff, abs_of_pos (by linarith), Exact.tolerance_eq]
    exact ⟨by norm_num, by linarith, rfl⟩
  refine ⟨_, hsolve, ?_, ?_⟩
  · rw [set_of_unreachable 10 (Real.log 10) .gt (by simp),
      if_pos ((holdsForPositive_turn one_ne_zero .gt).mpr (zero_lt_one' ℝ))]
  · rw [Solution.confidence_verify_eq_low_iff,
      passes_exponentialInequality_iff one_ne_zero (by norm_num) hln]
    norm_num [ExponentialTrusted, ReadsAsSign, fixedPoints_eq, Relation.Relates]
    decide

end Verification

end EquationTutor
