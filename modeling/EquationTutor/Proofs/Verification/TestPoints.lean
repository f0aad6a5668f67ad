import EquationTutor.Proofs.Exact.QuadraticInequality
import EquationTutor.Proofs.Verification.Sampling

namespace EquationTutor.Solve

open Scalar Verification EquationTutor.Relation

section Runs

variable {x y : ℝ} {outside mark between : Bool}

/-- The runs of a line with one mark, for the answers beside it and at it. -/
def runsOfOne (x : ℝ) (outside mark : Bool) : List (Interval ℝ) :=
  mergeCells none
    [⟨⟨.negInfinity, .openAt x⟩, outside⟩, ⟨.point x, mark⟩, ⟨⟨.openAt x, .posInfinity⟩, outside⟩]

/-- The runs of a line with two marks, for the answers outside, at them and between them. -/
def runsOfTwo (x y : ℝ) (outside mark between : Bool) : List (Interval ℝ) :=
  mergeCells none
    [⟨⟨.negInfinity, .openAt x⟩, outside⟩, ⟨.point x, mark⟩, ⟨⟨.openAt x, .openAt y⟩, between⟩,
      ⟨.point y, mark⟩, ⟨⟨.openAt y, .posInfinity⟩, outside⟩]

theorem setOfIntervals_runsOfOne_self (x : ℝ) (all : Bool) :
    setOfIntervals (runsOfOne x all all) = if all = true then .allReals else .empty := by
  cases all <;> rfl

theorem setOfIntervals_runsOfTwo_self (x y : ℝ) (all : Bool) :
    setOfIntervals (runsOfTwo x y all all all) = if all = true then .allReals else .empty := by
  cases all <;> rfl

theorem setOfIntervals_runsOfOne (hmixed : outside ≠ mark) :
    setOfIntervals (runsOfOne x outside mark) = .intervals (runsOfOne x outside mark) := by
  cases outside <;> cases mark <;> first | rfl | exact absurd rfl hmixed

theorem setOfIntervals_runsOfTwo (hmixed : ¬ (outside = mark ∧ between = mark)) :
    setOfIntervals (runsOfTwo x y outside mark between) =
      .intervals (runsOfTwo x y outside mark between) := by
  cases outside <;> cases mark <;> cases between <;>
    first | rfl | exact absurd ⟨rfl, rfl⟩ hmixed

theorem mem_samplePoints_runsOfOne (hmixed : outside ≠ mark) (t : ℝ) :
    t ∈ samplePoints (runsOfOne x outside mark) ↔
      t = x - 1 ∨ t = if mark = true then x else x + 1 := by
  have hedges : edges (runsOfOne x outside mark) = [x] := by
    rw [edges_of_pairwise]
    · cases outside <;> cases mark <;>
        simp_all [runsOfOne, mergeCells, Interval.point, Bound.endPoint?, dedup, dedupBy]
    · cases outside <;> cases mark <;>
        simp_all [runsOfOne, mergeCells, Interval.point, Bound.endPoint?]
  rw [mem_samplePoints_iff, hedges, eq_comm (a := t), eq_comm (a := t)]
  cases outside <;> cases mark <;>
    simp_all [runsOfOne, mergeCells, candidates, middles, Interval.point, Interval.sample,
      Interval.contains, Bound.value, Bound.isBelow, Bound.isAbove, or_comm]

theorem edges_runsOfTwo (hxy : x < y) (hmixed : ¬ (outside = mark ∧ between = mark)) :
    edges (runsOfTwo x y outside mark between) = [x, y] := by
  rw [edges_of_pairwise]
  · cases outside <;> cases mark <;> cases between <;>
      simp_all [runsOfTwo, mergeCells, Interval.point, Bound.endPoint?, dedup, dedupBy, hxy.ne]
  · cases outside <;> cases mark <;> cases between <;>
      simp_all [runsOfTwo, mergeCells, Interval.point, Bound.endPoint?, hxy.le]

/-- Unless the answer is the same everywhere, the middle is sampled, and otherwise only the
marks and the points at a distance of 1 from them. -/
theorem mem_samplePoints_runsOfTwo (hxy : x < y)
    (hmixed : ¬ (outside = mark ∧ between = mark)) :
    (x + y) / 2 ∈ samplePoints (runsOfTwo x y outside mark between) ∧
      ∀ t ∈ samplePoints (runsOfTwo x y outside mark between),
        t = (x + y) / 2 ∨ t ∈ [x - 1, x, y, y + 1] := by
  have hx : x < (x + y) / 2 := by linarith
  have hy : (x + y) / 2 < y := by linarith
  simp only [mem_samplePoints_iff, edges_runsOfTwo hxy hmixed]
  cases outside <;> cases mark <;> cases between <;>
    simp_all [runsOfTwo, mergeCells, candidates, middles, Interval.point, Interval.sample,
      Interval.contains, Bound.value, Bound.isBelow, Bound.isAbove, hx.not_ge, hx.le, hy.le]
  -- with rays outside and the marks left out, a point outside exists only if the marks
  -- are 1 apart, and then it is one of them
  all_goals
    intro t ht
    grind

variable (r : Relation) {f : ℝ → ℝ}

theorem solveByTestPoints_one (hf : f (x + 1) = f (x - 1)) :
    (solveByTestPoints [x] r f).1 =
      setOfIntervals (runsOfOne x (r.holds (f (x - 1)) 0) (r.holds (0 : ℝ) 0)) := by
  simp [solveByTestPoints, openPieces, testPiece, interleave, runsOfOne, Interval.sample,
    Bound.value, hf]

theorem solveByTestPoints_two (hf : f (y + 1) = f (x - 1)) :
    (solveByTestPoints [x, y] r f).1 =
      setOfIntervals (runsOfTwo x y (r.holds (f (x - 1)) 0) (r.holds (0 : ℝ) 0)
        (r.holds (f ((x + y) / 2)) 0)) := by
  simp [solveByTestPoints, openPieces, testPiece, interleave, runsOfTwo, Interval.sample,
    Bound.value, hf]

end Runs

section Passes

variable {a b c : ℝ} {r : Relation}

theorem tolerance_le_checkTolerance : (tolerance : ℝ) ≤ checkTolerance := by
  rw [Exact.tolerance_eq, Exact.checkTolerance_eq]
  norm_num

theorem claimOf_inequalitySolution :
    claimOf (inequalitySolution a b c r).detail = some (quadraticClaim a b c r) :=
  rfl

theorem passes_sampled_iff {pieces : List (Interval ℝ)}
    (hset : inequalitySet a b c r = .intervals pieces) :
    Passes (inequalitySolution a b c r) ↔ ∀ x ∈ samplePoints pieces,
      ((inequalitySet a b c r).Contains x ↔
        r.Accepts checkTolerance (quadraticAt a b c x)) := by
  rw [passes_intervals_iff claimOf_inequalitySolution hset]
  simp only [quadraticClaim, Exact.zero_eq, sub_zero]
  rfl

theorem detail_inequalitySolution_ne (d : LinearDetail ℝ) :
    (inequalitySolution a b c r).detail ≠ .linear d := by
  simp [inequalitySolution, Solution.plain]

theorem passes_unsampled_iff {holds : Prop} [Decidable holds]
    (hset : inequalitySet a b c r = if holds then .allReals else .empty)
    (hholds : holds ↔ r.Relates 0 0) :
    Passes (inequalitySolution a b c r) ↔ ReadsAsZero r (quadraticAt a b c) := by
  rw [passes_of_zero_iff claimOf_inequalitySolution hset detail_inequalitySolution_ne hholds]
  simp only [quadraticClaim, Exact.zero_eq, sub_zero]

theorem holds_zero_iff (r : Relation) : r.holds (0 : ℝ) 0 = true ↔ r.Relates 0 0 :=
  holds_zero_of_lt r (by simpa using Exact.tolerance_pos)

end Passes

section TwoRoots

variable {a b c x y : ℝ} (hxy : x < y)
  (hf : ∀ t, quadraticAt a b c t = a * (t - x) * (t - y))
include hf

theorem quadraticAt_between (ha : a ≠ 0) :
    quadraticAt a b c ((x + y) / 2) = axisValue a b c := by
  rw [axisValue, ← quadraticAt_root ha, (coefficients_of_factor hf).1]
  congr 1
  field_simp

theorem discriminant_of_factor : discriminant a b c = (a * (y - x)) ^ 2 := by
  obtain ⟨hb, hc⟩ := coefficients_of_factor hf
  rw [discriminant_eq, hb, hc]
  ring

theorem quadraticAt_outside :
    quadraticAt a b c (y + 1) = quadraticAt a b c (x - 1) := by
  rw [hf, hf]
  ring

include hxy in
theorem le_quadraticAt_outside (hdelta : tolerance < discriminant a b c) :
    checkTolerance ≤ |quadraticAt a b c (x - 1)| := by
  have hgap : (1e-5 : ℝ) < |a * (y - x)| := by
    apply lt_of_pow_lt_pow_left₀ 2 (abs_nonneg _)
    rw [sq_abs, ← discriminant_of_factor hf]
    calc (1e-5 : ℝ) ^ 2 = tolerance := by rw [Exact.tolerance_eq]; norm_num
      _ < discriminant a b c := hdelta
  have hvalue : |quadraticAt a b c (x - 1)| = |a| * (1 + (y - x)) := by
    rw [hf, show a * (x - 1 - x) * (x - 1 - y) = a * (1 + (y - x)) by ring, abs_mul,
      abs_of_pos (by linarith : 0 < 1 + (y - x))]
  rw [abs_mul, abs_of_pos (sub_pos.mpr hxy)] at hgap
  rw [hvalue, Exact.checkTolerance_eq]
  nlinarith [abs_nonneg a]

theorem mul_pos_of_middle_lt (ha : a ≠ 0) {t : ℝ}
    (ht : |quadraticAt a b c ((x + y) / 2)| < |quadraticAt a b c t|) :
    0 < quadraticAt a b c t * a := by
  have hdelta : 0 ≤ discriminant a b c := by
    rw [discriminant_of_factor hf]
    positivity
  have hmiddle : a * quadraticAt a b c ((x + y) / 2) = -(discriminant a b c / 4) := by
    rw [quadraticAt_between hf ha, axisValue]
    field_simp
  by_contra! hle
  have hvalue := mul_quadraticAt a b c t
  have hsquare := sq_nonneg (a * t + b / 2)
  have hlt := mul_lt_mul_of_pos_left ht (abs_pos.mpr ha)
  rw [← abs_mul, ← abs_mul, hmiddle, abs_neg, abs_of_nonneg (by linarith),
    abs_of_nonpos (by linarith)] at hlt
  linarith

include hxy

/-- At the points that are sampled next to the middle both tolerances give one verdict. -/
theorem contains_iff_accepts_beside (hdelta : tolerance < discriminant a b c)
    (r : Relation) {t : ℝ} (ht : t ∈ [x - 1, x, y, y + 1]) :
    (solveByTestPoints [x, y] r (quadraticAt a b c)).1.Contains t ↔
      r.Accepts checkTolerance (quadraticAt a b c t) := by
  have hsorted : [x, y].Pairwise (· < ·) := by simpa using hxy
  have hlarge := le_quadraticAt_outside hxy hf hdelta
  have hroot {s : ℝ} (hs : s ∈ [x, y]) : quadraticAt a b c s = 0 := by
    rcases List.mem_pair.mp hs with rfl | rfl <;> rw [hf] <;> ring
  have hmark {s : ℝ} (hs : s ∈ [x, y]) :
      (solveByTestPoints [x, y] r (quadraticAt a b c)).1.Contains s ↔
        r.Accepts checkTolerance (quadraticAt a b c s) := by
    rw [contains_critical hsorted r _ hs, hroot hs, r.accepts_zero Exact.checkTolerance_pos]
  simp only [List.mem_cons, List.not_mem_nil, or_false] at ht
  rcases ht with rfl | rfl | rfl | rfl
  · rw [contains_below r _ hxy (by linarith), r.holds_zero_iff_accepts,
      r.accepts_iff_accepts_iff tolerance_le_checkTolerance]
    exact .inr (.inl hlarge)
  · exact hmark (by simp)
  · exact hmark (by simp)
  · rw [contains_above r _ hxy (by linarith), r.holds_zero_iff_accepts,
      r.accepts_iff_accepts_iff tolerance_le_checkTolerance, quadraticAt_outside hf]
    exact .inr (.inl hlarge)

/-- The answers agree everywhere only if the middle is taken for 0, and then the values
beyond the check's tolerance are those outside. -/
theorem unsampled_of_two (ha : a ≠ 0) (hdelta : tolerance < discriminant a b c) {r : Relation}
    (houtside : r.Accepts tolerance (quadraticAt a b c (x - 1)) ↔ r.Relates 0 0)
    (hmiddle : r.Accepts tolerance (quadraticAt a b c ((x + y) / 2)) ↔ r.Relates 0 0) :
    |quadraticAt a b c ((x + y) / 2)| < tolerance ∧
      ∀ t, |quadraticAt a b c t| < checkTolerance ∨
        (r.Relates 0 0 ↔ r.Relates (quadraticAt a b c t) 0) := by
  have hlarge := tolerance_le_checkTolerance.trans (le_quadraticAt_outside hxy hf hdelta)
  have hout : 0 < quadraticAt a b c (x - 1) * a := by
    rw [hf, show a * (x - 1 - x) * (x - 1 - y) * a = a ^ 2 * (1 + (y - x)) by ring]
    exact mul_pos (by positivity) (by linarith)
  have hsign : r.Relates a 0 ↔ r.Relates 0 0 := by
    rw [← r.relates_zero_congr hout, ← r.accepts_of_le hlarge, houtside]
  have hsmall : |quadraticAt a b c ((x + y) / 2)| < tolerance := by
    by_contra! hle
    have hneg : 0 < quadraticAt a b c ((x + y) / 2) * -a := by
      have := Exact.tolerance_pos.trans hdelta
      rw [quadraticAt_between hf ha, axisValue]
      field_simp
      linarith
    have hother : r.Relates (-a) 0 ↔ r.Relates 0 0 := by
      rw [← r.relates_zero_congr hneg, ← r.accepts_of_le hle, hmiddle]
    exact r.relates_zero_ne ha (hsign.trans hother.symm) ha hsign.symm
  refine ⟨hsmall, fun t => ?_⟩
  rcases lt_or_ge |quadraticAt a b c t| checkTolerance with hlt | hge
  · exact .inl hlt
  · have hpos := mul_pos_of_middle_lt hf ha
      (hsmall.trans_le (tolerance_le_checkTolerance.trans hge))
    exact .inr (hsign.symm.trans (r.relates_zero_congr hpos).symm)

theorem passes_of_two (ha : a ≠ 0) (hdelta : tolerance < discriminant a b c) (r : Relation)
    (hroots : rootsOf a b c (discriminant a b c) = .two x y) :
    Passes (inequalitySolution a b c r) ↔
      (r.Accepts tolerance (quadraticAt a b c ((x + y) / 2)) ↔
        r.Accepts checkTolerance (quadraticAt a b c ((x + y) / 2))) := by
  have hset : inequalitySet a b c r = (solveByTestPoints [x, y] r (quadraticAt a b c)).1 := by
    rw [inequalitySet, hroots]
    rfl
  have hruns := hset.trans (solveByTestPoints_two r (quadraticAt_outside hf))
  set outside := r.holds (quadraticAt a b c (x - 1)) 0
  set mark := r.holds (0 : ℝ) 0
  set between := r.holds (quadraticAt a b c ((x + y) / 2)) 0
  -- one answer for the whole line is not sampled near the roots, but at the fixed points
  by_cases hmixed : outside = mark ∧ between = mark
  · rw [hmixed.1, hmixed.2, setOfIntervals_runsOfTwo_self] at hruns
    rw [passes_unsampled_iff hruns (holds_zero_iff r)]
    have houtside : r.Accepts tolerance (quadraticAt a b c (x - 1)) ↔ r.Relates 0 0 :=
      (r.holds_zero_iff_accepts _).symm.trans
        ((Bool.eq_iff_iff.mp hmixed.1).trans (holds_zero_iff r))
    have hmiddle : r.Accepts tolerance (quadraticAt a b c ((x + y) / 2)) ↔ r.Relates 0 0 :=
      (r.holds_zero_iff_accepts _).symm.trans
        ((Bool.eq_iff_iff.mp hmixed.2).trans (holds_zero_iff r))
    obtain ⟨hsmall, hvalues⟩ := unsampled_of_two hxy hf ha hdelta houtside hmiddle
    rw [r.accepts_iff_accepts_iff tolerance_le_checkTolerance]
    exact ⟨fun _ => .inl hsmall, fun _ t _ => hvalues t⟩
  · rw [setOfIntervals_runsOfTwo hmixed] at hruns
    obtain ⟨hsampled, hothers⟩ := mem_samplePoints_runsOfTwo hxy hmixed
    have hmiddle : (inequalitySet a b c r).Contains ((x + y) / 2) ↔
        r.Accepts tolerance (quadraticAt a b c ((x + y) / 2)) := by
      rw [hset, contains_between r _ (by linarith) (by linarith), r.holds_zero_iff_accepts]
    rw [passes_sampled_iff hruns, ← hmiddle]
    refine ⟨fun h => h _ hsampled, fun h t ht => ?_⟩
    rcases hothers t ht with rfl | ht
    · exact h
    · rw [hset]
      exact contains_iff_accepts_beside hxy hf hdelta r ht

end TwoRoots

section Discriminant

variable {a b c : ℝ}

theorem passes_iff_of_two (ha : a ≠ 0) (hdelta : tolerance < discriminant a b c)
    (r : Relation) :
    Passes (inequalitySolution a b c r) ↔
      |axisValue a b c| < tolerance ∨ checkTolerance ≤ |axisValue a b c| ∨
        (r.Relates 0 0 ↔ r.Relates (-a) 0) := by
  obtain ⟨x, y, hroots, hxy, hf⟩ := rootsOf_of_lt ha hdelta
  have hneg : 0 < axisValue a b c * -a := by
    have := Exact.tolerance_pos.trans hdelta
    rw [axisValue]
    field_simp
    linarith
  rw [passes_of_two hxy hf ha hdelta r hroots,
    r.accepts_iff_accepts_iff tolerance_le_checkTolerance, quadraticAt_between hf ha,
    r.relates_zero_congr hneg]

theorem passes_iff_of_one (ha : a ≠ 0) (hdelta : |discriminant a b c| ≤ tolerance)
    (r : Relation) :
    let root := axisValue a b c
    let beside := a + root
    let same := |beside| < tolerance ∨ (r.Relates 0 0 ↔ r.Relates beside 0)
    Passes (inequalitySolution a b c r) ↔
      (same → ReadsAsZero r (quadraticAt a b c)) ∧
      (¬ same → checkTolerance ≤ |beside| ∧
        (r.Relates 0 0 → |root| < checkTolerance ∨ r.Relates root 0)) := by
  intro root beside same
  set axis := -b / (2 * a)
  obtain ⟨hleft, hright⟩ := quadraticAt_beside_root (b := b) (c := c) ha
  rw [← add_axisValue] at hleft hright
  have hset : inequalitySet a b c r = (solveByTestPoints [axis] r (quadraticAt a b c)).1 := by
    rw [inequalitySet, rootsOf_of_abs_le hdelta]
    rfl
  have hruns := hset.trans (solveByTestPoints_one r (hright.trans hleft.symm))
  rw [hleft] at hruns
  have hsame : same ↔ r.holds beside 0 = r.holds (0 : ℝ) 0 := by
    rw [Bool.eq_iff_iff, holds_zero_iff, r.holds_zero_iff_accepts,
      r.accepts_iff_zero_iff fun _ => Iff.rfl]
  -- as with two roots, one answer for the whole line is a case of its own
  by_cases h : r.holds beside 0 = r.holds (0 : ℝ) 0
  · rw [h, setOfIntervals_runsOfOne_self] at hruns
    simp only [hsame.mpr h, not_true_eq_false, true_implies, false_implies, and_true]
    exact passes_unsampled_iff hruns (holds_zero_iff r)
  · rw [setOfIntervals_runsOfOne h] at hruns
    have hdiffers : ¬ same := hsame.not.mpr h
    simp only [hdiffers, not_false_eq_true, true_implies, false_implies, true_and]
    have hbeside {t : ℝ} (ht : t ≠ axis) (hvalue : quadraticAt a b c t = beside) :
        ((inequalitySet a b c r).Contains t ↔
          r.Accepts checkTolerance (quadraticAt a b c t)) ↔ checkTolerance ≤ |beside| := by
      rw [contains_of_ne_root ha hdelta r ht, ← add_axisValue, hvalue, r.holds_zero_iff_accepts,
        r.accepts_iff_accepts_iff tolerance_le_checkTolerance]
      tauto
    have hroot (hzero : r.Relates 0 0) :
        ((inequalitySet a b c r).Contains axis ↔
          r.Accepts checkTolerance (quadraticAt a b c axis)) ↔
            |root| < checkTolerance ∨ r.Relates root 0 := by
      rw [contains_root hdelta, quadraticAt_root ha, ← axisValue]
      refine (iff_comm.trans (r.accepts_iff_zero_iff fun _ => Iff.rfl)).trans ?_
      rw [iff_true_left hzero]
    rw [passes_sampled_iff hruns]
    simp only [mem_samplePoints_runsOfOne h, forall_eq_or_imp, forall_eq,
      hbeside (by simp : axis - 1 ≠ axis) hleft]
    by_cases hzero : r.Relates 0 0
    · rw [if_pos ((holds_zero_iff r).mpr hzero), hroot hzero]
      simp [hzero]
    · rw [if_neg ((holds_zero_iff r).not.mpr hzero),
        hbeside (by simp : axis + 1 ≠ axis) hright]
      simp [hzero]

theorem passes_iff_of_none (hdelta : discriminant a b c < -tolerance)
    (r : Relation) :
    Passes (inequalitySolution a b c r) ↔
      if |c| < 1e-10 then ReadsAsZero r (quadraticAt a b c)
      else ReadsAsSign r c (quadraticAt a b c) := by
  have hvalue : quadraticAt a b c 0 = c := by
    rw [quadraticAt_eq]
    ring
  have hset : inequalitySet a b c r = if r.holds c 0 = true then .allReals else .empty := by
    rw [inequalitySet, real_rootsOf_of_lt_neg hdelta]
    by_cases hc : r.holds c 0 = true <;>
      simp [solveByTestPoints, openPieces, testPiece, interleave, Interval.sample, mergeCells,
        setOfIntervals, Interval.isLine, hvalue, hc]
  split
  · rename_i hsmall
    exact passes_unsampled_iff hset (holds_zero_of_lt r hsmall)
  · rename_i hlarge
    have hc : tolerance ≤ |c| := not_lt.mp hlarge
    have hvalues (x : ℝ) : r.Relates (quadraticAt a b c x) 0 ↔ r.Relates c 0 := by
      rw [r.relates_zero_congr (mul_pos_of_none hdelta x), ← hvalue,
        r.relates_zero_congr (mul_pos_of_none hdelta 0)]
    rw [passes_of_sign_iff claimOf_inequalitySolution hset detail_inequalitySolution_ne
      (Exact.ne_zero_of_le hc) (holds_zero_of_le r hc)]
    · simp only [quadraticClaim, Exact.zero_eq, sub_zero]
    · intro x _ _
      simpa [quadraticClaim] using hvalues x

/-- When the answer to `ax² + bx + c op 0` is confirmed. With two roots that depends on the
value at the axis between them. With one root it is the value at the root, next to the value
`beside` at a distance of 1 from it. -/
def QuadraticTrusted (a b c : ℝ) (r : Relation) : Prop :=
  let delta := discriminant a b c
  let f := quadraticAt a b c
  let root := axisValue a b c
  let beside := a + root
  let same := |beside| < 1e-10 ∨ (r.Relates 0 0 ↔ r.Relates beside 0)
  (1e-10 < delta →
    |root| < 1e-10 ∨ 1e-9 ≤ |root| ∨ (r.Relates 0 0 ↔ r.Relates (-a) 0)) ∧
  (|delta| ≤ 1e-10 →
    (same → ReadsAsZero r f) ∧
    (¬ same → 1e-9 ≤ |beside| ∧ (r.Relates 0 0 → |root| < 1e-9 ∨ r.Relates root 0))) ∧
  (delta < -1e-10 → if |c| < 1e-10 then ReadsAsZero r f else ReadsAsSign r c f)

theorem passes_inequalitySolution_iff (ha : tolerance ≤ |a|) (r : Relation) :
    Passes (inequalitySolution a b c r) ↔ QuadraticTrusted a b c r := by
  have ha0 : a ≠ 0 := Exact.ne_zero_of_le ha
  have htol : (0 : ℝ) < tolerance := Exact.tolerance_pos
  simp only [QuadraticTrusted, ← Exact.tolerance_eq, ← Exact.checkTolerance_eq]
  rcases lt_or_ge (discriminant a b c) (-tolerance) with hneg | hge
  · have hlt : ¬ tolerance < discriminant a b c := by linarith
    have habs : ¬ |discriminant a b c| ≤ tolerance := by
      rw [abs_of_neg (by linarith)]
      linarith
    have hnone := passes_iff_of_none hneg r
    simp only [← Exact.tolerance_eq] at hnone
    simpa [hneg, hlt, habs] using hnone
  · rcases lt_or_ge tolerance (discriminant a b c) with hpos | hle
    · have habs : ¬ |discriminant a b c| ≤ tolerance := by
        rw [abs_of_pos (by linarith)]
        linarith
      rw [passes_iff_of_two ha0 hpos r]
      simp [hpos, habs, hge.not_gt]
    · have habs : |discriminant a b c| ≤ tolerance := abs_le.mpr ⟨hge, hle⟩
      simpa [habs, hge.not_gt, hle.not_gt] using passes_iff_of_one ha0 habs r

end Discriminant

end EquationTutor.Solve
