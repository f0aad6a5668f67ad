import EquationTutor.Proofs.Exact.Sets
import EquationTutor.Proofs.Exact.Verdicts
import EquationTutor.Proofs.Verification.Confidence

namespace EquationTutor

open Scalar

namespace Verification

section Confirmed

variable {α : Type} [Scalar α] {s : Solution α} {c : Claim α}

/-- An answer of all or nothing is confirmed at the fixed points. That an equation has no
solutions is not checked. -/
def ConfirmedThroughout (c : Claim α) (all : Prop) : Prop :=
  (c.relation = .eq ∧ ¬ all) ∨ ∀ x ∈ (fixedPoints : List α), (c.holds x = true ↔ all)

/-- Intervals are confirmed at a sample of each, and at one outside. -/
def ConfirmedIn (c : Claim α) (pieces : List (Interval α)) : Prop :=
  ∀ x ∈ samplePoints pieces, ((∃ i ∈ pieces, i.contains x = true) ↔ c.holds x = true)

omit [Scalar α] in
theorem testsEmpty_iff (hdetail : ∀ d, s.detail ≠ .linear d) :
    testsEmpty s.detail c = true ↔ c.relation ≠ .eq := by
  cases hd : s.detail with
  | linear d => exact absurd hd (hdetail d)
  | _ => simp [testsEmpty, Relation.isInequality]

variable (hclaim : claimOf s.detail = some c)
include hclaim

theorem passes_iff_near {values : List α} (hset : s.set = .discrete values) :
    Passes s ↔ ∀ x ∈ values, Near 1 (c.left x) c.right := by
  simp [Passes, checksOf_of_claim hclaim, hset, claimChecks]

theorem passes_iff_confirmedIn {pieces : List (Interval α)} (hset : s.set = .intervals pieces) :
    Passes s ↔ ConfirmedIn c pieces := by
  simp [Passes, checksOf_of_claim hclaim, hset, claimChecks, ConfirmedIn]

/-- A set without boundary is sampled at the fixed points, unless it is the empty set of
solutions of an equation. -/
theorem passes_iff_confirmedThroughout {holds : Prop} [Decidable holds]
    (hset : s.set = if holds then .allReals else .empty) (hdetail : ∀ d, s.detail ≠ .linear d) :
    Passes s ↔ ConfirmedThroughout c holds := by
  by_cases hholds : holds
  · rw [if_pos hholds] at hset
    simp [Passes, checksOf_of_claim hclaim, hset, claimChecks, ConfirmedThroughout, hholds]
  · rw [if_neg hholds] at hset
    by_cases heq : c.relation = .eq
    · have hempty : testsEmpty s.detail c = false := by
        simpa [heq] using testsEmpty_iff (c := c) hdetail
      simp [Passes, checksOf_of_claim hclaim, hset, claimChecks, hempty, ConfirmedThroughout, heq,
        hholds]
    · have hempty : testsEmpty s.detail c = true := (testsEmpty_iff hdetail).mpr heq
      simp [Passes, checksOf_of_claim hclaim, hset, claimChecks, hempty, ConfirmedThroughout, heq,
        hholds]

end Confirmed

theorem holds_iff_accepts (c : Claim ℝ) (x : ℝ) :
    c.holds x = true ↔ c.relation.Accepts checkTolerance (c.left x - c.right) :=
  c.relation.holdsWithin_iff_accepts Exact.checkTolerance_pos _ _

theorem near_one_iff (left right : ℝ) :
    Near 1 left right ↔ |left - right| < checkTolerance := by
  simp [Near]

theorem fixedPoints_eq : (fixedPoints : List ℝ) = [-10, 0, 10] := by
  simp [fixedPoints]

section Edges

theorem sort_of_pairwise {xs : List ℝ} (h : xs.Pairwise (· ≤ ·)) : sort xs = xs := by
  apply List.mergeSort_of_pairwise
  exact h.imp fun hle => decide_eq_true hle

def endPoints (pieces : List (Interval ℝ)) : List ℝ :=
  (pieces.flatMap fun i => [i.lower, i.upper]).filterMap Bound.endPoint?

@[simp] theorem endPoints_nil : endPoints [] = [] :=
  rfl

@[simp] theorem endPoints_cons (i : Interval ℝ) (pieces : List (Interval ℝ)) :
    endPoints (i :: pieces) =
      i.lower.endPoint?.toList ++ (i.upper.endPoint?.toList ++ endPoints pieces) := by
  rcases i with ⟨_ | _ | _ | _, _ | _ | _ | _⟩ <;> rfl

theorem edges_of_pairwise {pieces : List (Interval ℝ)}
    (h : (endPoints pieces).Pairwise (· ≤ ·)) : edges pieces = dedup (endPoints pieces) := by
  have hfilter : (endPoints pieces).filter isFinite = endPoints pieces :=
    List.filter_eq_self.mpr fun _ _ => rfl
  change dedup (sort ((endPoints pieces).filter isFinite)) = _
  rw [hfilter, sort_of_pairwise h]

end Edges

/-- At each of the fixed points the value is within the tolerance of the checks, or 0 is
treated like it. -/
def ReadsAsZero (r : Relation) (f : ℝ → ℝ) : Prop :=
  ∀ x ∈ (fixedPoints : List ℝ), |f x| < 1e-9 ∨ (r.Relates 0 0 ↔ r.Relates (f x) 0)

/-- No value at a fixed point is within the tolerance of the checks, or 0 is treated like
`sign`; or there is no check, as for equations without solutions. -/
def ReadsAsSign (r : Relation) (sign : ℝ) (f : ℝ → ℝ) : Prop :=
  r = .eq ∨ ∀ x ∈ (fixedPoints : List ℝ), 1e-9 ≤ |f x| ∨ (r.Relates 0 0 ↔ r.Relates sign 0)

section Samples

variable {s : Solution ℝ} {c : Claim ℝ} (hclaim : claimOf s.detail = some c)
include hclaim

theorem passes_discrete_iff {values : List ℝ} (hset : s.set = .discrete values) :
    Passes s ↔ ∀ x ∈ values, |c.left x - c.right| < checkTolerance := by
  simp [passes_iff_near hclaim hset, near_one_iff]

theorem passes_intervals_iff {pieces : List (Interval ℝ)} (hset : s.set = .intervals pieces) :
    Passes s ↔ ∀ x ∈ samplePoints pieces,
      (s.set.Contains x ↔ c.relation.Accepts checkTolerance (c.left x - c.right)) := by
  simp [passes_iff_confirmedIn hclaim hset, ConfirmedIn, hset, SolutionSet.Contains,
    holds_iff_accepts]

theorem passes_unbounded_iff {holds : Prop} [Decidable holds]
    (hset : s.set = if holds then .allReals else .empty)
    (hdetail : ∀ d, s.detail ≠ .linear d) :
    Passes s ↔ (c.relation = .eq ∧ ¬ holds) ∨ ∀ x ∈ (fixedPoints : List ℝ),
      (c.relation.Accepts checkTolerance (c.left x - c.right) ↔ holds) := by
  simp only [passes_iff_confirmedThroughout hclaim hset hdetail, ConfirmedThroughout,
    holds_iff_accepts]

section Unbounded

variable {holds : Prop} [Decidable holds]
  (hset : s.set = if holds then .allReals else .empty)
  (hdetail : ∀ d, s.detail ≠ .linear d)
include hset hdetail

theorem passes_of_zero_iff (hholds : holds ↔ c.relation.Relates 0 0) :
    Passes s ↔ ReadsAsZero c.relation fun x => c.left x - c.right := by
  have hleft : ¬ (c.relation = .eq ∧ ¬ holds) := by
    rintro ⟨heq, hnot⟩
    simp [hholds, heq, Relation.Relates] at hnot
  rw [passes_unbounded_iff hclaim hset hdetail, or_iff_right hleft, hholds]
  exact forall₂_congr fun x _ => c.relation.accepts_iff_zero_iff fun _ => Iff.rfl

theorem passes_of_sign_iff {sign : ℝ} (hsign : sign ≠ 0)
    (hholds : holds ↔ c.relation.Relates sign 0)
    (hvalues : ∀ x ∈ (fixedPoints : List ℝ), checkTolerance ≤ |c.left x - c.right| →
      (c.relation.Relates (c.left x - c.right) 0 ↔ c.relation.Relates sign 0)) :
    Passes s ↔ ReadsAsSign c.relation sign fun x => c.left x - c.right := by
  have hleft : (c.relation = .eq ∧ ¬ holds) ↔ c.relation = .eq := by
    rw [and_iff_left_iff_imp]
    intro heq
    simp [hholds, heq, Relation.Relates, hsign]
  rw [passes_unbounded_iff hclaim hset hdetail, hleft, hholds]
  refine or_congr_right (forall₂_congr fun x hx => ?_)
  exact c.relation.accepts_iff_relates_iff (hvalues x hx)

end Unbounded

end Samples

theorem mem_samplePoints_iff (pieces : List (Interval ℝ)) (x : ℝ) :
    x ∈ samplePoints pieces ↔ (∃ i ∈ pieces, i.sample = x) ∨
      (candidates (edges pieces)).find? (fun y => !pieces.any fun i => i.contains y) =
        some x := by
  simp [samplePoints]

end Verification

end EquationTutor
