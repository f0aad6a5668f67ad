import EquationTutor.Verification
import Mathlib.Tactic.Common

namespace EquationTutor

open Scalar

variable {α : Type}

namespace Verification

theorem confidenceOf_eq_low_iff (s : Solution α) (checked allValid : Bool) :
    (confidenceOf s checked allValid).1 = .low ↔ allValid = false := by
  cases allValid <;> cases checked <;> simp [confidenceOf]
  split <;> simp

theorem confidenceOf_eq_high_iff (s : Solution α) (checked allValid : Bool) :
    (confidenceOf s checked allValid).1 = .high ↔ allValid = true ∧ checked = true := by
  cases allValid <;> cases checked <;> simp [confidenceOf]
  split <;> simp

variable [Scalar α]

/-- The sides agree within the tolerance, which is measured in units of `scale`. -/
def Near (scale left right : α) : Prop :=
  absValue (left - right) / scale < checkTolerance

@[simp] theorem isValid_check (solution : String) (left right scale : α) :
    (check solution left right scale).isValid = true ↔ Near scale left right := by
  simp [check, Near]

@[simp] theorem isValid_substitute (c : Claim α) (x : α) :
    (c.substitute x).isValid = true ↔ Near 1 (c.left x) c.right := by
  simp [Claim.substitute]

@[simp] theorem isValid_sampleAt (c : Claim α) (inside : Bool) (x : α) :
    (c.sampleAt inside x).isValid = true ↔ (inside = true ↔ c.holds x = true) := by
  cases inside <;> cases h : c.holds x <;> simp [Claim.sampleAt, h]

theorem checksOf_of_claim {s : Solution α} {c : Claim α} (h : claimOf s.detail = some c) :
    checksOf s = claimChecks s.detail c s.set := by
  unfold checksOf
  split <;> simp_all [claimOf]

/-- No check of the solution fails. -/
def Passes (s : Solution α) : Prop :=
  (∀ k ∈ (checksOf s).1, k.isValid = true) ∧ ∀ k ∈ (checksOf s).2, k.isValid = true

end Verification

namespace Solution

open Verification

variable [Scalar α]

theorem allValid_verify_iff (s : Solution α) : s.verify.allValid = true ↔ Passes s := by
  simp [verify, Passes]

theorem confidence_verify_eq_low_iff (s : Solution α) :
    s.verify.confidence = .low ↔ ¬ Passes s := by
  rw [← allValid_verify_iff, Bool.not_eq_true]
  exact confidenceOf_eq_low_iff ..

theorem confidence_verify_eq_high_iff (s : Solution α) :
    s.verify.confidence = .high ↔
      Passes s ∧ ((checksOf s).1 ≠ [] ∨ (checksOf s).2 ≠ []) := by
  have hchecked : (!(checksOf s).1.isEmpty || !(checksOf s).2.isEmpty) = true ↔
      (checksOf s).1 ≠ [] ∨ (checksOf s).2 ≠ [] := by
    simp
  rw [← allValid_verify_iff]
  exact (confidenceOf_eq_high_iff ..).trans (and_congr_right' hchecked)

end Solution

end EquationTutor
