import EquationTutor.Proofs.Exact.QuadraticRoots
import EquationTutor.Proofs.Exact.Sets
/-!
When the answer to a quadratic inequality is right. A number at which the quadratic is
smaller than the tolerance is not asked about. With two roots the answer is always
right; else it is decided by samples, and these tell only where they are not too small
themselves and no root lies hidden between them.
-/

namespace EquationTutor.Solve

open Scalar EquationTutor.Relation

/-- The set has the right answer at every number at which the quadratic is not within the
tolerance of 0. -/
def Settles (set : SolutionSet ℝ) (a b c : ℝ) (r : Relation) : Prop :=
  ∀ x, 1e-10 ≤ |a * x ^ 2 + b * x + c| →
    (set.Contains x ↔ r.Relates (a * x ^ 2 + b * x + c) 0)

/-- Without real roots the sample is the value `c` at 0. With one root it is the value
`a - Δ/(4a)` at a distance of 1 from the root, while `-Δ/(4a)` is the value at the root
itself. A sample within the tolerance does no harm only if equality and the sign of `a`
satisfy the relation alike. -/
def SamplesTell (a b c : ℝ) (r : Relation) : Prop :=
  let delta := b ^ 2 - 4 * a * c
  (delta < -1e-10 → 1e-10 ≤ |c| ∨ (r.Relates 0 0 ↔ r.Relates a 0)) ∧
  (|delta| ≤ 1e-10 →
    delta ≤ 4 * |a| * 1e-10 ∧
    (1e-10 ≤ |a - delta / (4 * a)| ∨ (r.Relates 0 0 ↔ r.Relates a 0)) ∧
    (4 * |a| * 1e-10 ≤ |delta| → (r.Relates 0 0 ↔ r.Relates (-delta / (4 * a)) 0)))

noncomputable def axisValue (a b c : ℝ) : ℝ :=
  -discriminant a b c / (4 * a)

theorem add_axisValue (a b c : ℝ) :
    a + axisValue a b c = a - discriminant a b c / (4 * a) := by
  rw [axisValue, neg_div, sub_eq_add_neg]

noncomputable def inequalitySet (a b c : ℝ) (r : Relation) : SolutionSet ℝ :=
  (solveByTestPoints (rootsOf a b c (discriminant a b c)).real r (quadraticAt a b c)).1

noncomputable def inequalitySolution (a b c : ℝ) (r : Relation) : Solution ℝ :=
  let critical := (rootsOf a b c (discriminant a b c)).real
  .plain .quadraticInequality (describeSet (inequalitySet a b c r)) (inequalitySet a b c r)
    (.quadraticInequality
      { a := a
        b := b
        c := c
        relation := r
        discriminant := discriminant a b c
        criticalPoints := critical
        tests := (solveByTestPoints critical r (quadraticAt a b c)).2 })

theorem solveQuadraticInequality_of_le {p : Params ℝ} {a b c : ℝ} {r : Relation}
    (hcoefficients : quadraticCoefficients p .quadraticInequality = .ok (a, b, c))
    (hrelation : relation p .quadraticInequality = .ok r) (ha : tolerance ≤ |a|) :
    solveQuadraticInequality p = .ok (inequalitySolution a b c r) := by
  simp only [solveQuadraticInequality, hcoefficients, hrelation, quadraticRoots_of_le ha,
    bind, Except.bind]
  rfl

theorem exists_solveQuadraticInequality {p : Params ℝ} {a b c : ℝ} {r : Relation}
    (hcoefficients : quadraticCoefficients p .quadraticInequality = .ok (a, b, c))
    (hrelation : relation p .quadraticInequality = .ok r) (ha : tolerance ≤ |a|) :
    ∃ s, solveQuadraticInequality p = .ok s ∧ s.set = inequalitySet a b c r :=
  ⟨_, solveQuadraticInequality_of_le hcoefficients hrelation ha, rfl⟩

theorem holds_iff_of_mul_pos {r : Relation} {sample value : ℝ} (h : tolerance ≤ |sample|)
    (hsign : 0 < sample * value) : r.holds sample 0 = true ↔ r.Relates value 0 :=
  (holds_zero_of_le r h).trans (relates_zero_congr r hsign)

section TwoRoots

variable {a x y : ℝ} {f : ℝ → ℝ} (hf : ∀ t, f t = a * (t - x) * (t - y))
include hf

theorem holds_below (hxy : x < y) (ha : tolerance ≤ |a|) (r : Relation) {t : ℝ} (ht : t < x) :
    r.holds (f (x - 1)) 0 = true ↔ r.Relates (f t) 0 := by
  have ha0 : 0 < a ^ 2 := by
    rw [← sq_abs]
    exact pow_pos (Exact.tolerance_pos.trans_le ha) 2
  have hsample : f (x - 1) = a * (1 + (y - x)) := by
    rw [hf]
    ring
  apply holds_iff_of_mul_pos
  · rw [hsample, abs_mul, abs_of_pos (by linarith : 0 < 1 + (y - x))]
    nlinarith [abs_nonneg a]
  · have hpos : 0 < a ^ 2 * ((1 + (y - x)) * ((x - t) * (y - t))) :=
      mul_pos ha0 (mul_pos (by linarith) (mul_pos (by linarith) (by linarith)))
    rw [hsample, hf]
    linarith

theorem holds_above (hxy : x < y) (ha : tolerance ≤ |a|) (r : Relation) {t : ℝ} (ht : y < t) :
    r.holds (f (y + 1)) 0 = true ↔ r.Relates (f t) 0 := by
  have ha0 : 0 < a ^ 2 := by
    rw [← sq_abs]
    exact pow_pos (Exact.tolerance_pos.trans_le ha) 2
  have hsample : f (y + 1) = a * (1 + (y - x)) := by
    rw [hf]
    ring
  apply holds_iff_of_mul_pos
  · rw [hsample, abs_mul, abs_of_pos (by linarith : 0 < 1 + (y - x))]
    nlinarith [abs_nonneg a]
  · have hpos : 0 < a ^ 2 * ((1 + (y - x)) * ((t - x) * (t - y))) :=
      mul_pos ha0 (mul_pos (by linarith) (mul_pos (by linarith) (by linarith)))
    rw [hsample, hf]
    linarith

theorem holds_between (r : Relation) {t : ℝ} (hxt : x < t) (hty : t < y)
    (ht : tolerance ≤ |f t|) :
    r.holds (f ((x + y) / 2)) 0 = true ↔ r.Relates (f t) 0 := by
  have hsample : f ((x + y) / 2) = -a * ((y - x) / 2) ^ 2 := by
    rw [hf]
    ring
  have hvalue : f t = -a * ((t - x) * (y - t)) := by
    rw [hf]
    ring
  have hpos : 0 < (t - x) * (y - t) := mul_pos (by linarith) (by linarith)
  have hle : (t - x) * (y - t) ≤ ((y - x) / 2) ^ 2 := by
    nlinarith [sq_nonneg (t - (x + y) / 2)]
  have ha0 : 0 < a ^ 2 := by
    rw [sq_pos_iff]
    rintro rfl
    rw [hvalue] at ht
    norm_num at ht
    linarith [Exact.tolerance_pos]
  apply holds_iff_of_mul_pos
  · rw [hvalue, abs_mul, abs_of_pos hpos] at ht
    rw [hsample, abs_mul, abs_of_pos (hpos.trans_le hle)]
    nlinarith [abs_nonneg (-a)]
  · have : 0 < a ^ 2 * (((y - x) / 2) ^ 2 * ((t - x) * (y - t))) :=
      mul_pos ha0 (mul_pos (hpos.trans_le hle) hpos)
    rw [hsample, hvalue]
    linarith

theorem contains_of_two (hxy : x < y) (ha : tolerance ≤ |a|) (r : Relation) {t : ℝ}
    (ht : tolerance ≤ |f t|) :
    (solveByTestPoints [x, y] r f).1.Contains t ↔ r.Relates (f t) 0 := by
  have hroot (s : ℝ) (hs : f s = 0) : t ≠ s := by
    rintro rfl
    rw [hs, abs_zero] at ht
    linarith [Exact.tolerance_pos]
  rcases lt_or_gt_of_ne (hroot x (by rw [hf]; ring)) with hlt | hgt
  · rw [contains_below r f hxy hlt, holds_below hf hxy ha r hlt]
  · rcases lt_or_gt_of_ne (hroot y (by rw [hf]; ring)) with hlt' | hgt'
    · rw [contains_between r f hgt hlt', holds_between hf r hgt hlt' ht]
    · rw [contains_above r f hxy hgt', holds_above hf hxy ha r hgt']

end TwoRoots

theorem settles_of_two {a b c : ℝ} (ha : tolerance ≤ |a|)
    (hdelta : tolerance < discriminant a b c) (r : Relation) :
    Settles (inequalitySet a b c r) a b c r := by
  have ha0 : a ≠ 0 := Exact.ne_zero_of_le ha
  obtain ⟨x, y, hroots, hxy, hf⟩ := rootsOf_of_lt ha0 hdelta
  intro t ht
  rw [← quadraticAt_eq] at ht ⊢
  rw [inequalitySet, hroots]
  exact contains_of_two hf hxy ha r ht

/-- The quadratic takes every value on the side of `a` from `-Δ/(4a)` on. -/
theorem exists_mul_quadraticAt {a : ℝ} (ha : a ≠ 0) (b c : ℝ) {k : ℝ} (hk : 0 ≤ k) :
    ∃ x, a * quadraticAt a b c x = k - discriminant a b c / 4 ∧
      (0 < k → x ≠ -b / (2 * a)) := by
  have hx : a * ((√k - b / 2) / a) + b / 2 = √k := by
    field_simp
    ring
  refine ⟨(√k - b / 2) / a, ?_, ?_⟩
  · rw [mul_quadraticAt, hx, Real.sq_sqrt hk]
  · intro hpos h
    have hroot : 0 < √k := Real.sqrt_pos.mpr hpos
    rw [h] at hx
    field_simp at hx
    linarith

theorem exists_quadraticAt_far {a : ℝ} (ha : a ≠ 0) (b c : ℝ) :
    ∃ x, x ≠ -b / (2 * a) ∧ tolerance ≤ |quadraticAt a b c x| ∧
      0 < quadraticAt a b c x * a := by
  have htol : (0 : ℝ) < tolerance := Exact.tolerance_pos
  have habs : 0 < |a| := abs_pos.mpr ha
  have hk : 0 < |discriminant a b c| / 4 + |a| * tolerance := by positivity
  obtain ⟨x, hx, hne⟩ := exists_mul_quadraticAt ha b c hk.le
  have hlarge : |a| * tolerance ≤ a * quadraticAt a b c x := by
    rw [hx]
    linarith [le_abs_self (discriminant a b c)]
  refine ⟨x, hne hk, ?_, ?_⟩
  · have := hlarge.trans (le_abs_self _)
    rw [abs_mul] at this
    exact le_of_mul_le_mul_left this habs
  · rw [mul_comm]
    exact (mul_pos habs htol).trans_le hlarge

section NoRoot

variable {a b c : ℝ} (hdelta : discriminant a b c < -tolerance)
include hdelta

theorem contains_of_none (r : Relation) (x : ℝ) :
    (inequalitySet a b c r).Contains x ↔ r.holds c 0 = true := by
  have hc : quadraticAt a b c 0 = c := by
    rw [quadraticAt_eq]
    ring
  rw [inequalitySet, real_rootsOf_of_lt_neg hdelta, contains_solveByTestPoints (by simp)]
  simp [openPieces, Interval.contains_iff, Bound.isBelow, Bound.isAbove, Interval.sample, hc]

theorem mul_pos_of_none (x : ℝ) : 0 < quadraticAt a b c x * a := by
  have := mul_quadraticAt a b c x
  nlinarith [sq_nonneg (a * x + b / 2), Exact.tolerance_pos]

theorem settles_iff_of_none (ha : a ≠ 0) (r : Relation) :
    Settles (inequalitySet a b c r) a b c r ↔
      tolerance ≤ |c| ∨ (r.Relates 0 0 ↔ r.Relates a 0) := by
  have hsign (x : ℝ) : r.Relates (quadraticAt a b c x) 0 ↔ r.Relates a 0 :=
    relates_zero_congr r (mul_pos_of_none hdelta x)
  have hc : r.Relates c 0 ↔ r.Relates a 0 := by
    simpa [quadraticAt_eq] using hsign 0
  simp only [Settles, ← quadraticAt_eq, contains_of_none hdelta, hsign]
  rcases le_or_gt tolerance |c| with hlarge | hsmall
  · simp [hlarge, holds_zero_of_le r hlarge, hc]
  · obtain ⟨x, -, hx, -⟩ := exists_quadraticAt_far ha b c
    simp only [holds_zero_of_lt r hsmall, hsmall.not_ge, false_or]
    exact ⟨fun h => h x hx, fun h _ _ => h⟩

end NoRoot

section OneRoot

variable {a b c : ℝ}

theorem quadraticAt_beside_root (ha : a ≠ 0) :
    quadraticAt a b c (-b / (2 * a) - 1) = a - discriminant a b c / (4 * a) ∧
      quadraticAt a b c (-b / (2 * a) + 1) = a - discriminant a b c / (4 * a) := by
  simp only [quadraticAt_eq, discriminant_eq]
  constructor <;> field_simp <;> ring

theorem contains_root (hdelta : |discriminant a b c| ≤ tolerance) (r : Relation) :
    (inequalitySet a b c r).Contains (-b / (2 * a)) ↔ r.Relates 0 0 := by
  rw [inequalitySet, rootsOf_of_abs_le hdelta]
  change (solveByTestPoints [-b / (2 * a)] r _).1.Contains _ ↔ _
  rw [contains_solveByTestPoints (by simp)]
  simp [openPieces, Interval.contains_iff, Bound.isBelow, Bound.isAbove]

theorem contains_of_ne_root (ha : a ≠ 0) (hdelta : |discriminant a b c| ≤ tolerance)
    (r : Relation) {x : ℝ} (hx : x ≠ -b / (2 * a)) :
    (inequalitySet a b c r).Contains x ↔
      r.holds (a - discriminant a b c / (4 * a)) 0 = true := by
  obtain ⟨hleft, hright⟩ := quadraticAt_beside_root (b := b) (c := c) ha
  rw [inequalitySet, rootsOf_of_abs_le hdelta]
  change (solveByTestPoints [-b / (2 * a)] r _).1.Contains _ ↔ _
  rw [contains_solveByTestPoints (by simp)]
  simp only [openPieces, List.mem_cons, List.not_mem_nil, or_false, hx, false_and,
    false_or, exists_eq_or_imp, exists_eq_left, Interval.contains_iff, Bound.isBelow,
    Bound.isAbove, Interval.sample, Bound.value, decide_eq_true_eq, true_and, and_true,
    Exact.one_eq, hleft, hright, ← and_or_left]
  exact and_iff_left (lt_or_gt_of_ne hx)

/-- Beyond the tolerance the quadratic has the sign of `a`, unless it has two roots
between which it goes beyond the tolerance. -/
theorem mul_pos_of_one (ha : tolerance ≤ |a|) (hclose : discriminant a b c ≤ 4 * |a| * tolerance)
    {x : ℝ} (hne : x ≠ -b / (2 * a)) (hx : tolerance ≤ |quadraticAt a b c x|) :
    0 < quadraticAt a b c x * a := by
  have habs : 0 < |a| := Exact.tolerance_pos.trans_le ha
  have ha0 : a ≠ 0 := abs_pos.mp habs
  have hsquare : 0 < (a * x + b / 2) ^ 2 := by
    rw [sq_pos_iff]
    intro hzero
    apply hne
    field_simp
    linarith
  have hvalue := mul_quadraticAt a b c x
  by_contra hneg
  have hle : a * quadraticAt a b c x ≤ 0 := by linarith
  have hlarge : |a| * tolerance ≤ -(a * quadraticAt a b c x) := by
    rw [← abs_of_nonpos hle, abs_mul]
    exact mul_le_mul_of_nonneg_left hx habs.le
  linarith

theorem settles_of_one (ha : tolerance ≤ |a|) (hdelta : |discriminant a b c| ≤ tolerance)
    (r : Relation)
    (hclose : discriminant a b c ≤ 4 * |a| * tolerance)
    (hbeside : tolerance ≤ |a - discriminant a b c / (4 * a)| ∨
      (r.Relates 0 0 ↔ r.Relates a 0))
    (hroot : 4 * |a| * tolerance ≤ |discriminant a b c| →
      (r.Relates 0 0 ↔ r.Relates (-discriminant a b c / (4 * a)) 0)) :
    Settles (inequalitySet a b c r) a b c r := by
  have habs : 0 < |a| := Exact.tolerance_pos.trans_le ha
  have ha0 : a ≠ 0 := abs_pos.mp habs
  intro x hx
  change tolerance ≤ _ at hx
  rw [← quadraticAt_eq] at hx ⊢
  by_cases hne : x = -b / (2 * a)
  · rw [hne, contains_root hdelta, quadraticAt_root ha0]
    apply hroot
    rw [hne, quadraticAt_root ha0, abs_div, abs_neg, abs_mul,
      abs_of_pos (by norm_num : (0 : ℝ) < 4), le_div_iff₀ (by positivity)] at hx
    linarith
  · rw [contains_of_ne_root ha0 hdelta r hne,
      relates_zero_congr r (mul_pos_of_one ha hclose hne hx)]
    rcases le_or_gt tolerance |a - discriminant a b c / (4 * a)| with hlarge | hsmall
    · apply holds_iff_of_mul_pos hlarge
      have hprod : (a - discriminant a b c / (4 * a)) * a =
          a ^ 2 - discriminant a b c / 4 := by
        field_simp
      have hsq : a ^ 2 = |a| * |a| := by rw [← sq_abs, sq]
      have hne0 : (a - discriminant a b c / (4 * a)) * a ≠ 0 := by
        refine mul_ne_zero ?_ ha0
        rw [← abs_pos]
        exact Exact.tolerance_pos.trans_le hlarge
      refine lt_of_le_of_ne ?_ hne0.symm
      rw [hprod, hsq]
      nlinarith
    · rw [holds_zero_of_lt r hsmall]
      exact hbeside.resolve_left hsmall.not_ge

theorem exists_quadraticAt_below (ha : a ≠ 0) (hfar : 4 * |a| * tolerance < discriminant a b c) :
    ∃ x, x ≠ -b / (2 * a) ∧ tolerance ≤ |quadraticAt a b c x| ∧
      0 < quadraticAt a b c x * -a := by
  have habs : 0 < |a| := abs_pos.mpr ha
  have hk : 0 < discriminant a b c / 4 - |a| * tolerance := by linarith
  obtain ⟨x, hx, hne⟩ := exists_mul_quadraticAt ha b c hk.le
  have hvalue : a * quadraticAt a b c x = -(|a| * tolerance) := by
    rw [hx]
    ring
  have hpos : 0 < |a| * tolerance := mul_pos habs Exact.tolerance_pos
  refine ⟨x, hne hk, ?_, by linarith⟩
  have hmul : |a| * |quadraticAt a b c x| = |a| * tolerance := by
    rw [← abs_mul, hvalue, abs_neg, abs_of_pos hpos]
  exact (mul_left_cancel₀ habs.ne' hmul).ge

theorem samplesTell_of_settles (ha : tolerance ≤ |a|)
    (hdelta : |discriminant a b c| ≤ tolerance) (r : Relation)
    (h : Settles (inequalitySet a b c r) a b c r) :
    discriminant a b c ≤ 4 * |a| * tolerance ∧
      (tolerance ≤ |a - discriminant a b c / (4 * a)| ∨ (r.Relates 0 0 ↔ r.Relates a 0)) ∧
      (4 * |a| * tolerance ≤ |discriminant a b c| →
        (r.Relates 0 0 ↔ r.Relates (-discriminant a b c / (4 * a)) 0)) := by
  have habs : 0 < |a| := Exact.tolerance_pos.trans_le ha
  have ha0 : a ≠ 0 := abs_pos.mp habs
  have hbeside {x : ℝ} (hne : x ≠ -b / (2 * a)) (hx : tolerance ≤ |quadraticAt a b c x|) :
      r.holds (a - discriminant a b c / (4 * a)) 0 = true ↔
        r.Relates (quadraticAt a b c x) 0 := by
    have := h x
    rw [← quadraticAt_eq, contains_of_ne_root ha0 hdelta r hne] at this
    exact this hx
  have hroot (hlarge : 4 * |a| * tolerance ≤ |discriminant a b c|) :
      r.Relates 0 0 ↔ r.Relates (-discriminant a b c / (4 * a)) 0 := by
    have := h (-b / (2 * a))
    rw [← quadraticAt_eq, contains_root hdelta, quadraticAt_root ha0] at this
    apply this
    change tolerance ≤ _
    rw [abs_div, abs_neg, abs_mul, abs_of_pos (by norm_num : (0 : ℝ) < 4),
      le_div_iff₀ (by positivity)]
    linarith
  obtain ⟨x, hne, hx, hpos⟩ := exists_quadraticAt_far ha0 b c
  have hfar := (hbeside hne hx).trans (relates_zero_congr r hpos)
  refine ⟨?_, ?_, hroot⟩
  · by_contra! hclose
    obtain ⟨y, hne', hy, hneg⟩ := exists_quadraticAt_below ha0 hclose
    have hnear := (hbeside hne' hy).trans (relates_zero_congr r hneg)
    have hsides : r.Relates a 0 ↔ r.Relates (-a) 0 := hfar.symm.trans hnear
    have hvertex := hroot (hclose.le.trans (le_abs_self _))
    have hvalue : -discriminant a b c / (4 * a) ≠ 0 := by
      have : 0 < 4 * |a| * tolerance := by
        have := Exact.tolerance_pos
        positivity
      refine div_ne_zero (neg_ne_zero.mpr (this.trans hclose).ne') ?_
      exact mul_ne_zero four_ne_zero ha0
    exact relates_zero_ne r ha0 hsides hvalue hvertex
  · rcases le_or_gt tolerance |a - discriminant a b c / (4 * a)| with hlarge | hsmall
    · exact Or.inl hlarge
    · exact Or.inr ((holds_zero_of_lt r hsmall).symm.trans hfar)

end OneRoot

/-- Wherever the quadratic is not within the tolerance of 0 the answer is right, if and
only if the samples tell. -/
theorem solveQuadraticInequality_settles_iff (p : Params ℝ) (a b c : ℝ) (r : Relation)
    (hcoefficients : quadraticCoefficients p .quadraticInequality = .ok (a, b, c))
    (hrelation : relation p .quadraticInequality = .ok r) (ha : 1e-10 ≤ |a|) :
    ∃ s, solveQuadraticInequality p = .ok s ∧
      (Settles s.set a b c r ↔ SamplesTell a b c r) := by
  change tolerance ≤ |a| at ha
  obtain ⟨s, hsolve, hset⟩ := exists_solveQuadraticInequality hcoefficients hrelation ha
  have ha0 : a ≠ 0 := abs_pos.mp (Exact.tolerance_pos.trans_le ha)
  have htol : (0 : ℝ) < tolerance := Exact.tolerance_pos
  refine ⟨s, hsolve, ?_⟩
  rw [hset]
  simp only [SamplesTell, ← discriminant_eq, ← Exact.tolerance_eq]
  rcases lt_or_ge (discriminant a b c) (-tolerance) with hneg | hge
  · have habs : ¬ |discriminant a b c| ≤ tolerance := by
      rw [abs_of_neg (by linarith)]
      linarith
    rw [settles_iff_of_none hneg ha0 r]
    simp [hneg, habs]
  · rcases lt_or_ge tolerance (discriminant a b c) with hpos | hle
    · have habs : ¬ |discriminant a b c| ≤ tolerance := by
        rw [abs_of_pos (by linarith)]
        linarith
      simp [settles_of_two ha hpos r, habs, hge.not_gt]
    · have habs : |discriminant a b c| ≤ tolerance := abs_le.mpr ⟨hge, hle⟩
      simp only [habs, hge.not_gt, false_implies, true_implies, true_and]
      constructor
      · exact samplesTell_of_settles ha habs r
      · rintro ⟨hclose, hbeside, hroot⟩
        exact settles_of_one ha habs r hclose hbeside hroot

def inequalityParams (a b c : ℝ) (r : Relation) : Params ℝ :=
  ⟨[("a", .number a), ("b", .number b), ("c", .number c), ("operator", .text r.operator)]⟩

theorem quadraticCoefficients_inequalityParams (a b c : ℝ) (r : Relation) (kind : Kind) :
    quadraticCoefficients (inequalityParams a b c r) kind = .ok (a, b, c) := by
  rfl

theorem relation_inequalityParams (a b c : ℝ) (r : Relation) :
    relation (inequalityParams a b c r) .quadraticInequality = .ok r := by
  cases r <;> rfl

theorem settles_of_four_lt_sq :
    ∃ s, solveQuadraticInequality (inequalityParams 1 0 (-4) .gt) = .ok s ∧
      Settles s.set 1 0 (-4) .gt := by
  obtain ⟨s, hsolve, hiff⟩ := solveQuadraticInequality_settles_iff
    (inequalityParams 1 0 (-4) .gt) 1 0 (-4) .gt
    (quadraticCoefficients_inequalityParams ..) (relation_inequalityParams ..) (by norm_num)
  refine ⟨s, hsolve, hiff.mpr ?_⟩
  constructor <;> norm_num

/-- With a constant below the tolerance no number is found to satisfy `x² + c > 0`. -/
theorem not_contains_of_small_constant :
    ∃ s, solveQuadraticInequality (inequalityParams 1 0 5e-11 .gt) = .ok s ∧
      1e-10 ≤ |(1 * 1 ^ 2 + 0 * 1 + 5e-11 : ℝ)| ∧
      Relation.gt.Relates (1 * 1 ^ 2 + 0 * 1 + 5e-11 : ℝ) 0 ∧ ¬ s.set.Contains 1 := by
  have hdelta : discriminant (1 : ℝ) 0 5e-11 < -tolerance := by
    rw [discriminant_eq, Exact.tolerance_eq]
    norm_num
  obtain ⟨s, hsolve, hset⟩ := exists_solveQuadraticInequality
    (quadraticCoefficients_inequalityParams 1 0 5e-11 .gt .quadraticInequality)
    (relation_inequalityParams ..) (by rw [Exact.tolerance_eq]; norm_num)
  refine ⟨s, hsolve, by norm_num, by norm_num [Relates], ?_⟩
  rw [hset, contains_of_none hdelta, holds_zero_of_lt]
  · simp [Relates]
  · rw [Exact.tolerance_eq]
    norm_num

end EquationTutor.Solve
