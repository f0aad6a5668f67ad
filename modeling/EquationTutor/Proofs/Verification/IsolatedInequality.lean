import EquationTutor.Proofs.Exact.LinearInequality
import EquationTutor.Proofs.Verification.Sampling

namespace EquationTutor.Solve

open Scalar Verification EquationTutor.Relation

/-- The rays of the solutions of `x op rhs`. -/
def isolatedPieces {α : Type} (rhs : α) : Relation → List (Interval α)
  | .eq => []
  | .ne => [⟨.negInfinity, .openAt rhs⟩, ⟨.openAt rhs, .posInfinity⟩]
  | .lt => [⟨.negInfinity, .openAt rhs⟩]
  | .gt => [⟨.openAt rhs, .posInfinity⟩]
  | .le => [⟨.negInfinity, .closedAt rhs⟩]
  | .ge => [⟨.closedAt rhs, .posInfinity⟩]

theorem isolatedSet_of_ne {α : Type} {r : Relation} (hr : r ≠ .eq) (rhs : α) :
    isolatedSet rhs r = .intervals (isolatedPieces rhs r) := by
  cases r <;> first | exact absurd rfl hr | rfl

/-- One sample is taken on either side of the end point. -/
theorem mem_samplePoints_isolatedPieces {r : Relation} (hr : r ≠ .eq) (rhs x : ℝ) :
    x ∈ samplePoints (isolatedPieces rhs r) ↔ x = rhs - 1 ∨ x = rhs + 1 := by
  have hends : edges (isolatedPieces rhs r) = [rhs] := by
    rw [edges_of_pairwise]
    · cases r <;> simp_all [isolatedPieces, Bound.endPoint?, dedup, dedupBy]
    · cases r <;> simp_all [isolatedPieces, Bound.endPoint?]
  rw [mem_samplePoints_iff, hends, eq_comm (a := x), eq_comm (a := x)]
  cases r <;>
    simp_all [isolatedPieces, candidates, middles, Interval.sample, Bound.value,
      Interval.contains, Bound.isBelow, Bound.isAbove, or_comm]

section Isolated

variable {s : Solution ℝ} {c : Claim ℝ} (hclaim : claimOf s.detail = some c)
include hclaim

/-- A boundary that is a solution of the equation is confirmed where the values at a
distance of 1 are large enough to show their sign, or 0 is treated like them. -/
theorem passes_isolated_iff {rhs : ℝ} {isolated : Relation}
    (hset : s.set = isolatedSet rhs isolated) (hboundary : c.left rhs = c.right)
    (heq : isolated = .eq ↔ c.relation = .eq)
    (hisolated : ∀ x, isolated.Relates x rhs ↔ c.relation.Relates (c.left x - c.right) 0) :
    Passes s ↔ c.relation = .eq ∨ ∀ x ∈ [rhs - 1, rhs + 1],
      checkTolerance ≤ |c.left x - c.right| ∨
        (c.relation.Relates 0 0 ↔ c.relation.Relates (c.left x - c.right) 0) := by
  by_cases hr : isolated = .eq
  · have hvalues : s.set = .discrete [rhs] := by rw [hset, hr]; rfl
    simp [passes_discrete_iff hclaim hvalues, heq.mp hr, hboundary, Exact.checkTolerance_pos]
  · rw [passes_intervals_iff hclaim (hset.trans (isolatedSet_of_ne hr rhs)), hset,
      or_iff_right (heq.not.mp hr)]
    simp only [mem_samplePoints_isolatedPieces hr, contains_isolatedSet_iff, hisolated,
      List.mem_cons, List.not_mem_nil, or_false]
    exact forall₂_congr fun x _ =>
      iff_comm.trans (c.relation.accepts_iff_relates_iff fun _ => Iff.rfl)

end Isolated

/-- When the answer to `m x + b op c` is confirmed. -/
def LinearTrusted (m b c : ℝ) (r : Relation) : Prop :=
  if |m| < 1e-10 then
    if |b - c| < 1e-10 then ReadsAsZero r fun x => m * x + b - c
    else ReadsAsSign r (b - c) fun x => m * x + b - c
  else r = .eq ∨ 1e-9 ≤ |m|

theorem passes_of_isZero {m : ℝ} (hm : |m| < 1e-10) (b c : ℝ) (r : Relation) :
    Passes (linearInequality m b c r) ↔ LinearTrusted m b c r := by
  have hclaim : claimOf (linearInequality m b c r).detail =
      some ⟨fun x => m * x + b, c, r⟩ := rfl
  have hzero : isZero m = true := decide_eq_true hm
  have hset : (linearInequality m b c r).set =
      if r.holds b c = true then .allReals else .empty := by
    simp [linearInequality, Solution.plain, hzero]
  have hdetail (d : LinearDetail ℝ) : (linearInequality m b c r).detail ≠ .linear d := by
    simp [linearInequality, Solution.plain]
  rw [LinearTrusted, if_pos hm]
  split
  · rename_i hsmall
    exact passes_of_zero_iff hclaim hset hdetail
      ((r.holds_iff_accepts b c).trans (r.accepts_of_lt hsmall))
  · rename_i hlarge
    have hle : tolerance ≤ |b - c| := not_lt.mp hlarge
    have hne : b - c ≠ 0 := Exact.ne_zero_of_le hle
    refine passes_of_sign_iff hclaim hset hdetail hne
      ((r.holds_iff_accepts b c).trans (r.accepts_of_le hle)) fun x hx hvalue => ?_
    -- a slope within the solver's tolerance moves the value by less than that of the checks
    have hten : |x| ≤ 10 := by
      simp only [fixedPoints_eq, List.mem_cons, List.not_mem_nil, or_false] at hx
      rcases hx with rfl | rfl | rfl <;> norm_num
    have hdiff : |m * x + b - c - (b - c)| < 1e-9 := by
      rw [show m * x + b - c - (b - c) = m * x by ring, abs_mul]
      nlinarith [abs_nonneg m, abs_nonneg x]
    exact r.relates_zero_of_abs_sub_lt (hdiff.trans_le hvalue)

theorem passes_linearInequality_iff (m b c : ℝ) (r : Relation) :
    Passes (linearInequality m b c r) ↔ LinearTrusted m b c r := by
  rcases lt_or_ge |m| 1e-10 with hm | hm
  · exact passes_of_isZero hm b c r
  have hclaim : claimOf (linearInequality m b c r).detail =
      some ⟨fun x => m * x + b, c, r⟩ := rfl
  have hm0 : m ≠ 0 := Exact.ne_zero_of_le hm
  have hset : (linearInequality m b c r).set = isolatedSet ((c - b) / m) (r.turn m) := by
    rw [linearInequality_of_le hm]
    rfl
  have hbelow : m * ((c - b) / m - 1) + b - c = -m := by
    rw [← mul_sub_boundary hm0]
    ring
  have habove : m * ((c - b) / m + 1) + b - c = m := by
    rw [← mul_sub_boundary hm0]
    ring
  rw [LinearTrusted, if_neg hm.not_gt, passes_isolated_iff hclaim hset]
  · simp only [List.mem_cons, List.not_mem_nil, or_false, forall_eq_or_imp, forall_eq, hbelow,
      habove, abs_neg, ← Exact.checkTolerance_eq]
    refine or_congr_right ⟨fun h => ?_, fun h => ⟨.inl h, .inl h⟩⟩
    -- 0 cannot be treated like both signs
    by_contra hsmall
    have hneg := h.1.resolve_left hsmall
    have hpos := h.2.resolve_left hsmall
    exact r.relates_zero_ne hm0 (hpos.symm.trans hneg) hm0 hpos
  · have hboundary := mul_sub_boundary hm0 b c ((c - b) / m)
    rw [sub_self, mul_zero] at hboundary
    exact sub_eq_zero.mp hboundary.symm
  · exact r.turn_eq_iff m
  · intro x
    rw [r.relates_turn hm0, mul_sub_boundary hm0]

/-- When the answer to `k · base^x op bound` is confirmed. -/
def ExponentialTrusted (k base bound : ℝ) (r : Relation) : Prop :=
  if bound / k ≤ 0 then ReadsAsSign r k fun x => k * base ^ x - bound
  else
    r = .eq ∨ ∀ v ∈ [bound * (base⁻¹ - 1), bound * (base - 1)],
      1e-9 ≤ |v| ∨ (r.Relates 0 0 ↔ r.Relates v 0)

section Exponential

variable {k base bound : ℝ} (hk : k ≠ 0) (hbase : 0 < base) (hln : Real.log base ≠ 0)

include hk hbase in
theorem passes_of_unreachable (hbound : bound / k ≤ 0) (r : Relation) :
    Passes (exponentialInequality k base bound (Real.log base) r) ↔
      ExponentialTrusted k base bound r := by
  set s := exponentialInequality k base bound (Real.log base) r
  have hclaim : claimOf s.detail = some ⟨fun x => k * pow base x, bound, r⟩ := rfl
  have hset := set_of_unreachable base (Real.log base) r hbound
  have hdetail (d : LinearDetail ℝ) : s.detail ≠ .linear d := by
    simp [s, exponentialInequality, Solution.plain]
  rw [ExponentialTrusted, if_pos hbound]
  refine passes_of_sign_iff hclaim hset hdetail hk (holdsForPositive_turn hk r) fun x _ _ => ?_
  exact (r.relates_sub _ _).trans (relates_power_of_unreachable hk hbase r hbound x)

include hk hbase hln in
theorem passes_of_reachable (hbound : 0 < bound / k) (r : Relation) :
    Passes (exponentialInequality k base bound (Real.log base) r) ↔
      ExponentialTrusted k base bound r := by
  set s := exponentialInequality k base bound (Real.log base) r with hs
  set critical := Real.log (bound / k) / Real.log base with hcritical
  have hclaim : claimOf s.detail = some ⟨fun x => k * pow base x, bound, r⟩ := rfl
  have hset : s.set = isolatedSet critical ((r.turn k).turn (Real.log base)) :=
    set_of_reachable base (Real.log base) r hbound
  have hpower : base ^ critical = bound / k := by
    rw [hcritical, Real.rpow_def_of_pos hbase, mul_div_cancel₀ _ hln, Real.exp_log hbound]
  have hbelow : k * base ^ (critical - 1) - bound = bound * (base⁻¹ - 1) := by
    rw [Real.rpow_sub_one hbase.ne', hpower]
    field_simp
  have habove : k * base ^ (critical + 1) - bound = bound * (base - 1) := by
    rw [Real.rpow_add_one hbase.ne', hpower]
    field_simp
  rw [ExponentialTrusted, if_neg hbound.not_ge, passes_isolated_iff hclaim hset]
  · simp only [List.mem_cons, List.not_mem_nil, or_false, forall_eq_or_imp, forall_eq,
      Exact.pow_eq, hbelow, habove, ← Exact.checkTolerance_eq]
  · change k * base ^ critical = bound
    rw [hpower]
    field_simp
  · rw [turn_eq_iff, turn_eq_iff]
  · exact fun x => (relates_isolated_iff hk hbase r hln hbound x).trans (r.relates_sub _ _).symm

end Exponential

end EquationTutor.Solve
