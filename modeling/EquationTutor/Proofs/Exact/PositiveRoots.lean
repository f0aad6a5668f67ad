import EquationTutor.Proofs.Exact.Ascending
import EquationTutor.Proofs.Finite.Numbers
/-!
Quadratic equations in the powers of a base. Every root of the quadratic that is taken for
positive gives a value of the exponent, and the others are rejected. A root is taken for positive
only if it is above the tolerance, so that one closer to zero is lost.
-/

namespace EquationTutor.Solve

open Scalar

theorem mem_dedup_iff {xs : List ℝ} {x : ℝ} : x ∈ dedup xs ↔ x ∈ xs := by
  have hsame (y z : ℝ) (h : (y == z) = true) : ¬ x = y ↔ ¬ x = z := by
    rw [eq_of_beq h]
  rw [← not_iff_not, ← List.forall_mem_ne, ← List.forall_mem_ne]
  exact forall_mem_dedupBy_iff hsame xs

theorem mem_sort_iff {xs : List ℝ} {x : ℝ} : x ∈ sort xs ↔ x ∈ xs :=
  (List.mergeSort_perm xs _).mem_iff

/-- The exponents at which the powers of the base are the roots taken for positive. -/
noncomputable def exponentsOf (base : ℝ) (uRoots : List ℝ) : List ℝ :=
  dedup (sort ((uRoots.filter fun u => decide (tolerance < u)).map fun u =>
    Real.log u / Real.log base))

theorem mem_exponentsOf_iff {base x : ℝ} {uRoots : List ℝ} :
    x ∈ exponentsOf base uRoots ↔
      ∃ u ∈ uRoots, tolerance < u ∧ x = Real.log u / Real.log base := by
  rw [exponentsOf, mem_dedup_iff, mem_sort_iff]
  simp only [List.mem_map, List.mem_filter, decide_eq_true_eq, and_assoc]
  exact exists_congr fun u => and_congr_right fun _ => and_congr_right fun _ => eq_comm

theorem realValues_exponentialQuadraticSet (base : ℝ) (uRoots : List ℝ) :
    (exponentialQuadraticSet uRoots (exponentsOf base uRoots)).2.realValues =
      exponentsOf base uRoots := by
  rcases exponentialQuadraticSet_cases uRoots (exponentsOf base uRoots) with
    ⟨hset, hroots | hvalues⟩ | ⟨hset, -⟩
  · rw [hset, hroots, exponentsOf, List.filter_nil, List.map_nil, sort, List.mergeSort_nil]
    rfl
  · rw [hset, hvalues]
    rfl
  · rw [hset]
    rfl

theorem mem_real_rootsOf_iff {a b c : ℝ} (ha : a ≠ 0) (u : ℝ) :
    u ∈ (rootsOf a b c (discriminant a b c)).real ↔
      tolerance < discriminant a b c ∧ a * u ^ 2 + b * u + c = 0 ∨
        |discriminant a b c| ≤ tolerance ∧ u = -b / (2 * a) := by
  by_cases hsmall : |discriminant a b c| ≤ tolerance
  · have hle : ¬ tolerance < discriminant a b c := not_lt.mpr ((le_abs_self _).trans hsmall)
    rw [rootsOf_of_abs_le hsmall]
    simp [QuadraticRoots.real, hle, hsmall]
  rcases lt_abs.mp (not_le.mp hsmall) with hpos | hneg
  · obtain ⟨x, y, hroots, -, hfactor⟩ := rootsOf_of_lt ha hpos
    have hroot : a * u ^ 2 + b * u + c = 0 ↔ u = x ∨ u = y := by
      rw [← quadraticAt_eq, hfactor, mul_eq_zero, mul_eq_zero_iff_left ha, sub_eq_zero, sub_eq_zero]
    rw [hroots, hroot]
    simp [QuadraticRoots.real, hpos, hsmall]
  · have hneg : discriminant a b c < -tolerance := by linarith
    have hle : ¬ tolerance < discriminant a b c := by
      linarith [Exact.tolerance_pos]
    simp [real_rootsOf_of_lt_neg hneg, hle, hsmall]

/-- What the solver reads of a record. -/
structure ReadsPower {α : Type} [Scalar α] (p : Params α) (a b c base : α) : Prop where
  a : p.numberD "a" 1 = a
  b : p.numberD "b" 0 = b
  c : p.numberD "c" 0 = c
  base : requireBase p .exponentialQuadratic = .ok base

/-- The answer to `a · base^(2x) + b · base^x + c = 0` has all admissible roots, and nothing
else. -/
structure KeepsPositiveRoots (a b c base : ℝ) (set : SolutionSet ℝ)
    (d : ExponentialQuadraticDetail ℝ) : Prop where
  set_eq : set = .empty ∨ ∃ values, set = .discrete values
  rejected_eq : d.rejected = d.uRoots.filter fun u => decide (u ≤ 0)
  mem_iff : ∀ x, x ∈ set.realValues ↔ ∃ u ∈ d.uRoots, 0 < u ∧ x = Real.log u / Real.log base
  ascending : set.realValues.Pairwise (· < ·)
  complete : tolerance < discriminant a b c →
    ∀ x, x ∈ set.realValues ↔ a * base ^ (2 * x) + b * base ^ x + c = 0

/-- A root of the quadratic in the powers is positive, but within the tolerance. Roots are taken
for equal if the discriminant is within the tolerance. -/
inductive HasSmallRoot (a b c : ℝ) : Prop
  | distinct (u : ℝ) (hdelta : tolerance < discriminant a b c) (hpos : 0 < u) (hle : u ≤ tolerance)
      (hroot : a * u ^ 2 + b * u + c = 0)
  | equal (hdelta : |discriminant a b c| ≤ tolerance) (hpos : 0 < -b / (2 * a))
      (hle : -b / (2 * a) ≤ tolerance)

theorem hasSmallRoot_iff {a b c : ℝ} (ha : a ≠ 0) : HasSmallRoot a b c ↔
    ∃ u ∈ (rootsOf a b c (discriminant a b c)).real, 0 < u ∧ u ≤ tolerance := by
  simp only [mem_real_rootsOf_iff ha]
  constructor
  · rintro (⟨u, hdelta, hpos, hle, hroot⟩ | ⟨hdelta, hpos, hle⟩)
    · exact ⟨u, .inl ⟨hdelta, hroot⟩, hpos, hle⟩
    · exact ⟨_, .inr ⟨hdelta, rfl⟩, hpos, hle⟩
  · rintro ⟨u, ⟨hdelta, hroot⟩ | ⟨hdelta, rfl⟩, hpos, hle⟩
    · exact .distinct u hdelta hpos hle hroot
    · exact .equal hdelta hpos hle

theorem rpow_eq_iff {base u x : ℝ} (hbase : 0 < base) (hln : Real.log base ≠ 0) (hu : 0 < u) :
    base ^ x = u ↔ x = Real.log u / Real.log base := by
  rw [eq_div_iff hln, ← Real.log_rpow hbase]
  exact (Real.log_injOn_pos.eq_iff (Real.rpow_pos_of_pos hbase x) hu).symm

/-- The exponents that solve the equation are those whose powers are roots of the quadratic. -/
theorem solves_iff_exists_root {a b c base x : ℝ} (hbase : 0 < base) (hln : Real.log base ≠ 0) :
    a * base ^ (2 * x) + b * base ^ x + c = 0 ↔
      ∃ u, a * u ^ 2 + b * u + c = 0 ∧ 0 < u ∧ x = Real.log u / Real.log base := by
  have hsquare : base ^ (2 * x) = (base ^ x) ^ 2 := by
    rw [mul_comm, Real.rpow_mul hbase.le, Real.rpow_two]
  rw [hsquare]
  constructor
  · intro h
    have hpos := Real.rpow_pos_of_pos hbase x
    exact ⟨base ^ x, h, hpos, (rpow_eq_iff hbase hln hpos).mp rfl⟩
  · rintro ⟨u, hu, hpos, hx⟩
    rwa [(rpow_eq_iff hbase hln hpos).mpr hx]

theorem set_exponentialQuadraticSet (uRoots values : List ℝ) :
    (exponentialQuadraticSet uRoots values).2 = .empty ∨
      ∃ xs, (exponentialQuadraticSet uRoots values).2 = .discrete xs :=
  (exponentialQuadraticSet_cases uRoots values).imp (·.1) fun h => ⟨values, h.1⟩

theorem keepsPositiveRoots_iff {a b c base : ℝ} (ha : a ≠ 0) (hbase : 0 < base)
    (hln : Real.log base ≠ 0) {d : ExponentialQuadraticDetail ℝ}
    (huRoots : d.uRoots = (rootsOf a b c (discriminant a b c)).real)
    (hrejected : d.rejected = d.uRoots.filter fun u => !decide (tolerance < u)) :
    KeepsPositiveRoots a b c base
      (exponentialQuadraticSet d.uRoots (exponentsOf base d.uRoots)).2 d ↔
        ¬ HasSmallRoot a b c := by
  rw [hasSmallRoot_iff ha, ← huRoots]
  constructor
  · rintro hkeeps ⟨u, hu, hpos, hle⟩
    have hmem : u ∈ d.rejected := by
      rw [hrejected, List.mem_filter]
      exact ⟨hu, by simpa using hle⟩
    rw [hkeeps.rejected_eq, List.mem_filter, decide_eq_true_iff] at hmem
    exact hmem.2.not_gt hpos
  · intro hsmall
    have hpositive : ∀ u ∈ d.uRoots, (tolerance < u ↔ 0 < u) := fun u hu =>
      ⟨Exact.tolerance_pos.trans, fun hpos => not_le.mp fun hle => hsmall ⟨u, hu, hpos, hle⟩⟩
    have hvalues (x : ℝ) : x ∈ exponentsOf base d.uRoots ↔
        ∃ u ∈ d.uRoots, 0 < u ∧ x = Real.log u / Real.log base := by
      rw [mem_exponentsOf_iff]
      exact exists_congr fun u => and_congr_right fun hu => and_congr_left fun _ => hpositive u hu
    refine ⟨set_exponentialQuadraticSet .., ?_, ?_, ?_, ?_⟩
    · rw [hrejected]
      refine List.filter_congr fun u hu => ?_
      rw [← decide_not, decide_eq_decide, hpositive u hu, not_lt]
    · rwa [realValues_exponentialQuadraticSet]
    · rw [realValues_exponentialQuadraticSet]
      exact pairwise_dedupBy (fun t => beq_self_eq_true t) (pairwise_sort _)
    · intro hdelta x
      have hle : ¬ |discriminant a b c| ≤ tolerance := not_le.mpr (lt_abs.mpr (.inl hdelta))
      rw [realValues_exponentialQuadraticSet, hvalues, solves_iff_exists_root hbase hln, huRoots]
      simp only [mem_real_rootsOf_iff ha, hdelta, hle, true_and, false_and, or_false]

section Solver

variable {p : Params ℝ} {s : Solution ℝ} {a b c base : ℝ} (hp : ReadsPower p a b c base)
include hp

theorem exists_solveExponentialQuadratic_iff :
    (∃ s, solveExponentialQuadratic p = .ok s) ↔
      tolerance ≤ |a| ∧ 0 < base ∧ tolerance ≤ |Real.log base| := by
  simp only [solveExponentialQuadratic, hp.a, hp.b, hp.c, hp.base, bind_eq_ok_iff,
    lnBase_eq_ok_iff]
  constructor
  · rintro ⟨s, _, ⟨⟩, _, ⟨hbase, hlarge, rfl⟩, ⟨delta, roots⟩, hroots, -⟩
    exact ⟨(checkLeading_eq_ok_iff a ()).mp (quadraticRoots_eq_ok_iff.mp hroots).1, hbase, hlarge⟩
  · rintro ⟨ha, hbase, hlarge⟩
    exact ⟨_, base, rfl, _, ⟨hbase, hlarge, rfl⟩, _, quadraticRoots_of_le ha b c, rfl⟩

theorem exists_detail_of_solveExponentialQuadratic (h : solveExponentialQuadratic p = .ok s) :
    ∃ d : ExponentialQuadraticDetail ℝ, s.detail = .exponentialQuadratic d ∧
      d.uRoots = (rootsOf a b c (discriminant a b c)).real ∧
      d.rejected = d.uRoots.filter (fun u => !decide (tolerance < u)) ∧
      s.set = (exponentialQuadraticSet d.uRoots (exponentsOf base d.uRoots)).2 := by
  simp only [solveExponentialQuadratic, hp.a, hp.b, hp.c, hp.base, bind_eq_ok_iff,
    List.partition_eq_filter_filter, lnBase_eq_ok_iff] at h
  obtain ⟨_, ⟨⟩, _, ⟨-, -, rfl⟩, ⟨delta, roots⟩, hroots, h⟩ := h
  obtain ⟨-, rfl, rfl⟩ := quadraticRoots_eq_ok_iff.mp hroots
  cases h
  exact ⟨_, rfl, rfl, rfl, rfl⟩

/-- The answer is complete if and only if no root is positive and taken for zero. -/
theorem solveExponentialQuadratic_keeps_iff :
    ((∃ s, solveExponentialQuadratic p = .ok s) ↔
      tolerance ≤ |a| ∧ 0 < base ∧ tolerance ≤ |Real.log base|) ∧
    ∀ s, solveExponentialQuadratic p = .ok s →
      ∃ d, s.detail = .exponentialQuadratic d ∧
        (KeepsPositiveRoots a b c base s.set d ↔ ¬ HasSmallRoot a b c) := by
  refine ⟨exists_solveExponentialQuadratic_iff hp, fun s hs => ?_⟩
  obtain ⟨ha, hbase, hln⟩ := (exists_solveExponentialQuadratic_iff hp).mp ⟨s, hs⟩
  have ha0 : a ≠ 0 := abs_pos.mp (Exact.tolerance_pos.trans_le ha)
  have hln0 : Real.log base ≠ 0 := abs_pos.mp (Exact.tolerance_pos.trans_le hln)
  obtain ⟨d, hdetail, huRoots, hrejected, hset⟩ := exists_detail_of_solveExponentialQuadratic hp hs
  refine ⟨d, hdetail, ?_⟩
  rw [hset]
  exact keepsPositiveRoots_iff ha0 hbase hln0 huRoots hrejected

end Solver

theorem readsPower_powerParams (a b c base : ℝ) :
    ReadsPower (powerParams a b c base) a b c base :=
  ⟨rfl, rfl, rfl, rfl⟩

theorem tolerance_le_log_two : tolerance ≤ |Real.log 2| := by
  rw [Exact.tolerance_eq, abs_of_pos (Real.log_pos one_lt_two)]
  linarith [Real.log_two_gt_d9]

/-- All solutions of `2^(2x) - 6 · 2^x + 8 = 0` are found. -/
theorem solveExponentialQuadratic_powersOfTwo :
    ∃ s, solveExponentialQuadratic (powerParams 1 (-6) 8 2) = .ok s ∧
      ∀ x, x ∈ s.set.realValues ↔ (1 : ℝ) * 2 ^ (2 * x) + -6 * 2 ^ x + 8 = 0 := by
  obtain ⟨hsolves, hkeeps⟩ := solveExponentialQuadratic_keeps_iff (readsPower_powerParams 1 (-6) 8 2)
  have hunit : tolerance ≤ |(1 : ℝ)| := by
    norm_num [Exact.tolerance_eq]
  obtain ⟨s, hs⟩ := hsolves.mpr ⟨hunit, two_pos, tolerance_le_log_two⟩
  obtain ⟨d, -, hiff⟩ := hkeeps s hs
  have hdelta : tolerance < discriminant (1 : ℝ) (-6) 8 := by
    rw [discriminant_eq, Exact.tolerance_eq]
    norm_num
  have hsmall : ¬ HasSmallRoot 1 (-6) 8 := by
    rintro (⟨u, -, hpos, hle, hroot⟩ | ⟨hle, -⟩)
    · have hfactor : (u - 2) * (u - 4) = 0 := by
        linear_combination hroot
      rw [Exact.tolerance_eq] at hle
      rcases mul_eq_zero.mp hfactor with h | h <;> linarith
    · exact (lt_abs.mpr (.inl hdelta)).not_ge hle
  exact ⟨s, hs, (hiff.mpr hsmall).complete hdelta⟩

/-- `2^(2x) - (2 + 2⁻³⁴) 2^x + 2⁻³³ = 0` has the solutions 1 and -34. The power is below the
tolerance at -34, which is not found. -/
theorem not_keeps_root_near_zero :
    ∃ s d, solveExponentialQuadratic (powerParams 1 (-(2 + 1 / 2 ^ 34)) (1 / 2 ^ 33) 2) = .ok s ∧
      s.detail = .exponentialQuadratic d ∧
      (1 : ℝ) * 2 ^ (2 * (-34 : ℝ)) + -(2 + 1 / 2 ^ 34) * 2 ^ (-34 : ℝ) + 1 / 2 ^ 33 = 0 ∧
      -34 ∉ s.set.realValues ∧
      ¬ KeepsPositiveRoots 1 (-(2 + 1 / 2 ^ 34)) (1 / 2 ^ 33) 2 s.set d := by
  have hreads := readsPower_powerParams 1 (-(2 + 1 / 2 ^ 34)) (1 / 2 ^ 33) 2
  have hunit : tolerance ≤ |(1 : ℝ)| := by
    norm_num [Exact.tolerance_eq]
  have hln : Real.log 2 ≠ 0 := (Real.log_pos one_lt_two).ne'
  obtain ⟨s, hs⟩ := (exists_solveExponentialQuadratic_iff hreads).mpr
    ⟨hunit, two_pos, tolerance_le_log_two⟩
  obtain ⟨d, hdetail, huRoots, hrejected, hset⟩ :=
    exists_detail_of_solveExponentialQuadratic hreads hs
  have hpower : (2 : ℝ) ^ (-34 : ℝ) = 1 / 2 ^ 34 := by
    rw [Real.rpow_neg two_pos.le, one_div]
    norm_num
  have hequation : (1 : ℝ) * (1 / 2 ^ 34) ^ 2 + -(2 + 1 / 2 ^ 34) * (1 / 2 ^ 34) + 1 / 2 ^ 33 = 0 := by
    norm_num
  have hle : (1 / 2 ^ 34 : ℝ) ≤ tolerance := by
    norm_num [Exact.tolerance_eq]
  refine ⟨s, d, hs, hdetail, ?_, ?_, ?_⟩
  · refine (solves_iff_exists_root two_pos hln).mpr ⟨1 / 2 ^ 34, hequation, by positivity, ?_⟩
    exact (rpow_eq_iff two_pos hln (by positivity)).mp hpower
  · rw [hset, realValues_exponentialQuadraticSet, mem_exponentsOf_iff]
    rintro ⟨u, -, hu, hx⟩
    rw [← rpow_eq_iff two_pos hln (Exact.tolerance_pos.trans hu), hpower] at hx
    exact (hx ▸ hle).not_gt hu
  · rw [hset, keepsPositiveRoots_iff one_ne_zero two_pos hln huRoots hrejected, not_not]
    refine .distinct (1 / 2 ^ 34) ?_ (by positivity) hle hequation
    rw [discriminant_eq, Exact.tolerance_eq]
    norm_num

end EquationTutor.Solve
