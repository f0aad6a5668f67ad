import EquationTutor.Proofs.Exact.QuadraticRoots
import EquationTutor.Proofs.Factoring.IntegerFactors
import EquationTutor.Proofs.Solution.Answers
/-!
When the four ways to solve a quadratic equation agree. The formula and the completed
square are the same roots under different tolerances, one for `Δ` and one for `Δ/(4a²)`.
Factors are those of nearby integers, so they are roots only if nothing was lost in going
over to the integers.
-/

namespace EquationTutor.Solve

open Scalar

section Around

/-- The roots of `(x + h)² = r`, where magnitudes up to `margin` count as 0. -/
noncomputable def rootsAround (margin h r : ℝ) : QuadraticRoots ℝ :=
  if margin < r then .two (-h - √r) (-h + √r)
  else if |r| ≤ margin then .one (-h)
  else .complexPair ⟨-h, √(-r)⟩ ⟨-h, -√(-r)⟩

variable {margin h r : ℝ}

theorem rootsAround_of_lt (hr : margin < r) :
    rootsAround margin h r = .two (-h - √r) (-h + √r) :=
  if_pos hr

theorem rootsAround_of_abs_le (hr : |r| ≤ margin) : rootsAround margin h r = .one (-h) := by
  have hle : ¬ margin < r := not_lt.mpr ((le_abs_self r).trans hr)
  rw [rootsAround, if_neg hle, if_pos hr]

theorem rootsAround_of_lt_neg (hmargin : 0 < margin) (hr : r < -margin) :
    rootsAround margin h r = .complexPair ⟨-h, √(-r)⟩ ⟨-h, -√(-r)⟩ := by
  have hle : ¬ margin < r := by linarith
  have habs : ¬ |r| ≤ margin := fun h => by linarith [(abs_le.mp h).1]
  rw [rootsAround, if_neg hle, if_neg habs]

theorem rootsOfSquare_eq (h r : ℝ) : rootsOfSquare h r = rootsAround tolerance h r :=
  rfl

/-- Only where one margin takes the roots for a repeated one does the margin matter. -/
theorem rootsAround_eq_iff {margin' : ℝ} (hmargin : 0 < margin) (hmargin' : 0 < margin')
    (h r : ℝ) :
    rootsAround margin h r = rootsAround margin' h r ↔ (|r| ≤ margin ↔ |r| ≤ margin') := by
  by_cases hr : |r| ≤ margin <;> by_cases hr' : |r| ≤ margin'
  · simp [rootsAround_of_abs_le, hr, hr']
  · simp only [hr, hr', rootsAround_of_abs_le]
    rcases lt_abs.mp (not_le.mp hr') with hpos | hneg
    · simp [rootsAround_of_lt hpos]
    · simp [rootsAround_of_lt_neg hmargin' (by linarith)]
  · simp only [hr, hr', rootsAround_of_abs_le]
    rcases lt_abs.mp (not_le.mp hr) with hpos | hneg
    · simp [rootsAround_of_lt hpos]
    · simp [rootsAround_of_lt_neg hmargin (by linarith)]
  · simp only [hr, hr', iff_self, iff_true]
    rcases lt_abs.mp (not_le.mp hr) with hpos | hneg
    · have hpos' : margin' < r := by
        rwa [abs_of_pos (hmargin.trans hpos), not_le] at hr'
      rw [rootsAround_of_lt hpos, rootsAround_of_lt hpos']
    · have hneg' : r < -margin' := by
        rw [abs_of_neg (by linarith), not_le] at hr'
        linarith
      rw [rootsAround_of_lt_neg hmargin (by linarith), rootsAround_of_lt_neg hmargin' hneg']

end Around

def halfShift {α : Type} [Scalar α] (a b : α) : α :=
  b / a / 2

theorem halfShift_eq (a b : ℝ) : halfShift a b = b / a / 2 := by
  rw [halfShift, Exact.ofNat_eq]

noncomputable def squareRemainder (a b c : ℝ) : ℝ :=
  halfShift a b * halfShift a b - c / a

theorem squareRemainder_eq {a : ℝ} (ha : a ≠ 0) (b c : ℝ) :
    squareRemainder a b c = discriminant a b c / (4 * a ^ 2) := by
  rw [squareRemainder, halfShift_eq, discriminant_eq]
  field_simp
  ring

theorem neg_halfShift {a : ℝ} (ha : a ≠ 0) (b : ℝ) : -halfShift a b = -b / (2 * a) := by
  rw [halfShift_eq]
  field_simp

theorem halfShift_of_factors {a b c x y : ℝ} (ha : a ≠ 0) (hb : b = -a * (x + y))
    (hc : c = a * (x * y)) :
    halfShift a b = -(x + y) / 2 ∧ squareRemainder a b c = ((y - x) / 2) ^ 2 := by
  have hshift : halfShift a b = -(x + y) / 2 := by
    rw [halfShift_eq, hb]
    field_simp
  refine ⟨hshift, ?_⟩
  rw [squareRemainder, hshift, hc]
  field_simp
  ring

/-- The formula is the completed square under the tolerance for the discriminant. -/
theorem rootsOf_eq_rootsAround {a : ℝ} (ha : a ≠ 0) (b c : ℝ) :
    rootsOf a b c (discriminant a b c) =
      rootsAround (tolerance / (4 * a ^ 2)) (halfShift a b) (squareRemainder a b c) := by
  have htol : (0 : ℝ) < tolerance := Exact.tolerance_pos
  have hfour : 0 < 4 * a ^ 2 := by positivity
  have hremainder := squareRemainder_eq ha b c
  rcases lt_or_ge tolerance (discriminant a b c) with hpos | hle
  · obtain ⟨x, y, hroots, hxy, hf⟩ := rootsOf_of_lt ha hpos
    obtain ⟨hb, hc⟩ := coefficients_of_factor hf
    obtain ⟨hshift, hsquare⟩ := halfShift_of_factors ha hb hc
    have hroot : √(squareRemainder a b c) = (y - x) / 2 := by
      rw [hsquare, Real.sqrt_sq (by linarith)]
    have hlarge : tolerance / (4 * a ^ 2) < squareRemainder a b c := by
      rw [hremainder]
      exact div_lt_div_of_pos_right hpos hfour
    rw [hroots, rootsAround_of_lt hlarge, hroot, hshift]
    congr 1 <;> ring
  · rcases lt_or_ge (discriminant a b c) (-tolerance) with hneg | hge
    · have hsmall : squareRemainder a b c < -(tolerance / (4 * a ^ 2)) := by
        rw [hremainder, ← neg_div]
        exact div_lt_div_of_pos_right hneg hfour
      have hroot : √(-squareRemainder a b c) = √(-discriminant a b c) / |2 * a| := by
        rw [hremainder, ← neg_div, show 4 * a ^ 2 = (2 * a) ^ 2 by ring,
          Real.sqrt_div' _ (sq_nonneg _), Real.sqrt_sq_eq_abs]
      rw [rootsOf_of_lt_neg hneg, rootsAround_of_lt_neg (by positivity) hsmall, hroot,
        neg_halfShift ha]
    · have hsmall : |discriminant a b c| ≤ tolerance := abs_le.mpr ⟨hge, hle⟩
      have hsmall' : |squareRemainder a b c| ≤ tolerance / (4 * a ^ 2) := by
        rw [hremainder, abs_div, abs_of_pos hfour]
        exact div_le_div_of_nonneg_right hsmall hfour.le
      rw [rootsOf_of_abs_le hsmall, rootsAround_of_abs_le hsmall', neg_halfShift ha]

/-- Formula and completed square agree unless the tolerances see a repeated root in one
of them only. -/
theorem rootsOf_eq_rootsOfSquare_iff {a : ℝ} (ha : a ≠ 0) (b c : ℝ) :
    rootsOf a b c (discriminant a b c) =
        rootsOfSquare (halfShift a b) (squareRemainder a b c) ↔
      (|discriminant a b c| ≤ tolerance ↔ |discriminant a b c| ≤ 4 * a ^ 2 * tolerance) := by
  have htol : (0 : ℝ) < tolerance := Exact.tolerance_pos
  have hfour : 0 < 4 * a ^ 2 := by positivity
  rw [rootsOf_eq_rootsAround ha, rootsOfSquare_eq, rootsAround_eq_iff (by positivity) htol,
    squareRemainder_eq ha, abs_div, abs_of_pos hfour, div_le_div_iff_of_pos_right hfour,
    div_le_iff₀' hfour]

/-- The answer names the nature of these roots and consists of them. -/
structure States (s : Solution ℝ) (roots : QuadraticRoots ℝ) : Prop where
  label : s.label = roots.nature.label
  set : s.set = roots.toSet

theorem states_formulaSolution (kind : Kind) (a b c : ℝ) :
    States (formulaSolution kind a b c) (rootsOf a b c (discriminant a b c)) :=
  ⟨rfl, rfl⟩

theorem exists_solveCompletingSquare {p : Params ℝ} {a b c : ℝ}
    (hcoefficients : quadraticCoefficients p .completingSquare = .ok (a, b, c))
    (ha : tolerance ≤ |a|) :
    ∃ s, solveCompletingSquare p = .ok s ∧
      States s (rootsOfSquare (halfShift a b) (squareRemainder a b c)) := by
  have hleading : checkLeading a = .ok () := if_neg (not_lt.mpr ha)
  rw [solveCompletingSquare, hcoefficients]
  simp only [bind, Except.bind, hleading]
  exact ⟨_, rfl, rfl, rfl⟩

section NearestInteger

theorem nearest_eq {x : ℝ} {n : ℤ} (h : |x - n| < 1 / 2) : nearest x = n := by
  obtain ⟨hlower, hupper⟩ := abs_lt.mp h
  change (if 0 ≤ x then ⌊x + 1 / 2⌋ else ⌈x - 1 / 2⌉) = n
  split
  · rw [Int.floor_eq_iff]
    constructor <;> linarith
  · rw [Int.ceil_eq_iff]
    constructor <;> linarith

theorem isSearchable_iff (v : ℝ) :
    isSearchable v = true ↔ |v - (nearest v : ℤ)| < tolerance ∧ |v| ≤ 1e12 := by
  have hfinite : isFinite v = true := rfl
  simp [isSearchable, isIntegral, isZero, hfinite]

end NearestInteger

/-- The coefficients lie within the tolerance of those of `k (x + p)(x + q)`, and within
the limits of the search. -/
structure NearFactors (a b c : ℝ) (k p q : ℤ) : Prop where
  le : p ≤ q
  limit : (p * q).natAbs ≤ 1000000
  leading : |a - k| < 1e-10 ∧ |a| ≤ 1e12
  linear : |b - (k * (p + q) : ℤ)| < 1e-10 ∧ |b| ≤ 1e12
  constant : |c - (k * (p * q) : ℤ)| < 1e-10 ∧ |c| ≤ 1e12

/-- The factors that are found for real coefficients. -/
noncomputable def factorsFound (a b c : ℝ) : Option (Option Int × Int × Int) :=
  if isSearchable a && isSearchable b && isSearchable c then
    factorIntegers (nearest a) (nearest b) (nearest c)
  else none

theorem nearest_ne_zero {a : ℝ} (ha : tolerance ≤ |a|)
    (hnear : |a - (nearest a : ℤ)| < tolerance) : (nearest a : ℤ) ≠ 0 := by
  intro hzero
  rw [hzero, Int.cast_zero, sub_zero] at hnear
  linarith

theorem factorsFound_eq_some_iff {a : ℝ} (ha : tolerance ≤ |a|) (b c : ℝ)
    (common : Option Int) (p q : Int) :
    factorsFound a b c = some (common, p, q) ↔
      common = (if (nearest a : ℤ) = 1 then none else some (nearest a)) ∧
        NearFactors a b c (nearest a) p q := by
  simp only [factorsFound, Option.ite_none_right_eq_some, Bool.and_eq_true, isSearchable_iff]
  constructor
  · rintro ⟨⟨⟨ha', hb'⟩, hc'⟩, hfound⟩
    rw [factorIntegers_eq_some_iff (nearest_ne_zero ha ha'.1)] at hfound
    obtain ⟨hcommon, hlimit, hle, hb, hc⟩ := hfound
    exact ⟨hcommon, hle, hlimit, ha', hb ▸ hb', hc ▸ hc'⟩
  · rintro ⟨hcommon, hle, hlimit, ha', hb', hc'⟩
    have hhalf : (1e-10 : ℝ) < 1 / 2 := by norm_num
    have hb : nearest b = nearest a * (p + q) := nearest_eq (hb'.1.trans hhalf)
    have hc : nearest c = nearest a * (p * q) := nearest_eq (hc'.1.trans hhalf)
    refine ⟨⟨⟨ha', hb.symm ▸ hb'⟩, hc.symm ▸ hc'⟩, ?_⟩
    rw [factorIntegers_eq_some_iff (nearest_ne_zero ha ha'.1)]
    exact ⟨hcommon, hlimit, hle, hb, hc⟩

theorem NearFactors.nearest_eq {a b c : ℝ} {k p q : ℤ} (h : NearFactors a b c k p q) :
    nearest a = k :=
  Solve.nearest_eq (h.leading.1.trans (by norm_num))

/-- The answer by factoring, or by the formula where no factors are found. -/
noncomputable def factoringSolution (a b c : ℝ) : Solution ℝ :=
  let quadratic := quadraticDetail a b c (discriminant a b c)
    (rootsOf a b c (discriminant a b c)).nature
  match factorsFound a b c with
  | some (common, p, q) => factoredSolution quadratic common p q
  | none =>
    { formulaSolution .factoringQuadratic a b c with
      fallback := true
      notes := [fallbackNote]
      detail := .factoring ⟨none, none, none, quadratic⟩ }

theorem solveFactoring_of_le {p : Params ℝ} {a b c : ℝ}
    (hcoefficients : quadraticCoefficients p .factoringQuadratic = .ok (a, b, c))
    (ha : tolerance ≤ |a|) : solveFactoring p = .ok (factoringSolution a b c) := by
  rw [solveFactoring, hcoefficients]
  simp only [bind, Except.bind, quadraticRoots_of_le ha, solveCoefficients_of_le _ ha,
    factoringSolution]
  change (match factorsFound a b c with | some (common, p, q) => _ | none => _) = _
  cases factorsFound a b c <;> rfl

theorem label_factoringSolution (a b c : ℝ) :
    (factoringSolution a b c).label =
      (rootsOf a b c (discriminant a b c)).nature.label := by
  unfold factoringSolution
  split <;> rfl

theorem states_factoringSolution {a b c : ℝ} (ha : tolerance ≤ |a|)
    (hnone : ∀ k p q, ¬ NearFactors a b c k p q) :
    States (factoringSolution a b c) (rootsOf a b c (discriminant a b c)) := by
  have hfound : factorsFound a b c = none := by
    rw [Option.eq_none_iff_forall_ne_some]
    rintro ⟨common, p, q⟩ h
    exact hnone _ p q ((factorsFound_eq_some_iff ha b c common p q).mp h).2
  refine ⟨label_factoringSolution a b c, ?_⟩
  simp only [factoringSolution, hfound]
  rfl

theorem set_factoringSolution {a b c : ℝ} (ha : tolerance ≤ |a|) {k p q : ℤ}
    (h : NearFactors a b c k p q) :
    (factoringSolution a b c).set =
      .discrete (if p = q then [-(q : ℝ)] else [-(q : ℝ), -(p : ℝ)]) := by
  have hfound := (factorsFound_eq_some_iff ha b c _ p q).mpr ⟨rfl, h.nearest_eq.symm ▸ h⟩
  simp only [factoringSolution, hfound, factoredSolution, Solution.plain, Exact.ofInt_eq,
    Exact.dedup_pair, neg_inj, Int.cast_inj, eq_comm (a := q)]

theorem toSet_inj {roots roots' : QuadraticRoots ℝ} : roots.toSet = roots'.toSet ↔
    roots = roots' := by
  cases roots <;> cases roots' <;> simp [QuadraticRoots.toSet, QuadraticRoots.real]

/-- Factors near the coefficients are not far from 1 or beyond, so `Δ` is above its
tolerance where they differ. -/
theorem NearFactors.abs_leading {a b c : ℝ} {k p q : ℤ} (ha : tolerance ≤ |a|)
    (h : NearFactors a b c k p q) : 1 - tolerance < |a| := by
  have hk : k ≠ 0 := h.nearest_eq ▸ nearest_ne_zero ha (h.nearest_eq.symm ▸ h.leading.1)
  have hone : (1 : ℝ) ≤ |(k : ℝ)| := by
    exact_mod_cast Int.one_le_abs hk
  have hnear : |a - k| < tolerance := h.leading.1
  have htriangle := abs_sub_abs_le_abs_sub (k : ℝ) a
  rw [abs_sub_comm] at hnear
  linarith

/-- The factors give the roots of the formula iff they have the sum of the roots and, up to
the tolerance for a repeated root, their product. -/
theorem NearFactors.set_eq_iff {a b c : ℝ} {k p q : ℤ} (ha : tolerance ≤ |a|)
    (h : NearFactors a b c k p q) :
    (rootsOf a b c (discriminant a b c)).toSet = (factoringSolution a b c).set ↔
      b = a * (p + q) ∧
        (c = a * (p * q) ∨ p = q ∧ |discriminant a b c| ≤ tolerance) := by
  have htol : (0 : ℝ) < tolerance := Exact.tolerance_pos
  have habs : 0 < |a| := htol.trans_le ha
  have ha0 : a ≠ 0 := abs_pos.mp habs
  rw [set_factoringSolution ha h]
  rcases eq_or_lt_of_le h.le with rfl | hlt
  · have hset : SolutionSet.discrete [-(p : ℝ)] = QuadraticRoots.toSet (.one (-(p : ℝ))) := rfl
    rw [if_pos rfl, hset, toSet_inj, rootsOf_eq_one_iff ha0]
    constructor
    · rintro ⟨hsmall, hb⟩
      exact ⟨by linarith, .inr ⟨rfl, hsmall⟩⟩
    · rintro ⟨hb, hc | ⟨-, hsmall⟩⟩
      · have hdelta : discriminant a b c = 0 := by
          rw [discriminant_eq, hb, hc]
          ring
        exact ⟨by simpa [hdelta] using htol.le, by linarith⟩
      · exact ⟨hsmall, by linarith⟩
  · have hset : SolutionSet.discrete [-(q : ℝ), -(p : ℝ)] =
        QuadraticRoots.toSet (.two (-(q : ℝ)) (-(p : ℝ))) := rfl
    have hlt' : -(q : ℝ) < -(p : ℝ) := neg_lt_neg (Int.cast_lt.mpr hlt)
    rw [if_neg hlt.ne, hset, toSet_inj, rootsOf_eq_two_iff ha0]
    simp only [hlt.ne, false_and, or_false, hlt', true_and]
    constructor
    · rintro ⟨-, hb, hc⟩
      exact ⟨by linarith, by linarith⟩
    · rintro ⟨hb, hc⟩
      refine ⟨?_, by linarith, by linarith⟩
      have hdelta : discriminant a b c = (|a| * (q - p)) ^ 2 := by
        rw [discriminant_eq, hb, hc, mul_pow |a|, sq_abs]
        ring
      have hgap : (1 : ℝ) ≤ q - p := by
        exact_mod_cast Int.le_sub_right_of_add_le (by omega)
      have hleading := h.abs_leading ha
      have htol' : (tolerance : ℝ) = 1e-10 := Exact.tolerance_eq
      have hlarge : 1 - tolerance < |a| * (q - p) := by nlinarith
      rw [hdelta]
      rw [htol'] at hlarge ⊢
      nlinarith

/-- Two answers name the same nature and are the same set. -/
def Agree (s s' : Solution ℝ) : Prop :=
  s.label = s'.label ∧ s.set = s'.set

/-- The name of the answer suits the number and kind of its values. -/
def LabelFits (s : Solution ℝ) : Prop :=
  match s.set with
  | .discrete [_, _] => s.label = "Two distinct real solutions"
  | .discrete [_] => s.label = "One repeated real solution"
  | .complex [z, w] => w = z.conj ∧ s.label = "Two complex conjugate solutions"
  | _ => False

theorem States.agree_iff {s s' : Solution ℝ} {roots roots' : QuadraticRoots ℝ}
    (h : States s roots) (h' : States s' roots') : Agree s s' ↔ roots = roots' := by
  constructor
  · rintro ⟨-, hset⟩
    exact toSet_inj.mp (by rw [← h.set, hset, h'.set])
  · rintro rfl
    exact ⟨h.label.trans h'.label.symm, h.set.trans h'.set.symm⟩

theorem States.labelFits_around {s : Solution ℝ} {margin x r : ℝ}
    (h : States s (rootsAround margin x r)) : LabelFits s := by
  have hlabel := h.label
  simp only [LabelFits, h.set, rootsAround] at hlabel ⊢
  split_ifs at hlabel ⊢
  · exact hlabel
  · exact hlabel
  · exact ⟨rfl, hlabel⟩

theorem Agree.labelFits {s s' : Solution ℝ} (h : Agree s s') (hs : LabelFits s) :
    LabelFits s' := by
  rw [LabelFits, h.1, h.2] at hs
  exact hs

/-- Factoring agrees with the formula if what is found are factors of the quadratic. -/
theorem agree_factoringSolution_iff {a : ℝ} (ha : tolerance ≤ |a|) (b c : ℝ) (kind : Kind) :
    Agree (formulaSolution kind a b c) (factoringSolution a b c) ↔
      ∀ k x y, NearFactors a b c k x y →
        b = a * (x + y) ∧
          (c = a * (x * y) ∨ x = y ∧ |discriminant a b c| ≤ tolerance) := by
  have hformula := states_formulaSolution kind a b c
  by_cases hfactors : ∃ k x y, NearFactors a b c k x y
  · obtain ⟨k, x, y, h⟩ := hfactors
    constructor
    · rintro ⟨-, hset⟩ k' x' y' h'
      exact (h'.set_eq_iff ha).mp (hformula.set ▸ hset)
    · intro hroots
      refine ⟨(label_factoringSolution a b c).symm, ?_⟩
      exact hformula.set.trans ((h.set_eq_iff ha).mpr (hroots k x y h))
  · push Not at hfactors
    have hagree := (hformula.agree_iff (states_factoringSolution ha hfactors)).mpr rfl
    simp [hagree, hfactors]

/-- The answers of the formula, of factoring and of the completed square are the same, with
names that suit them, if and only if a repeated root is seen with and without the division
by the leading coefficient, and factors of nearby integers are those of the quadratic. -/
theorem strategies_agree_iff (p : Params ℝ) (a b c : ℝ)
    (hcoefficients : quadraticCoefficients p .standardQuadratic = .ok (a, b, c))
    (ha : 1e-10 ≤ |a|) :
    ∃ standard formula factoring square,
      solveKind .standardQuadratic p = .ok standard ∧
      solveKind .quadraticFormula p = .ok formula ∧
      solveKind .factoringQuadratic p = .ok factoring ∧
      solveKind .completingSquare p = .ok square ∧
      ((Agree standard formula ∧ Agree standard factoring ∧ Agree standard square ∧
          LabelFits standard ∧ LabelFits formula ∧ LabelFits factoring ∧ LabelFits square) ↔
        (|b ^ 2 - 4 * a * c| ≤ 1e-10 ↔ |b ^ 2 - 4 * a * c| ≤ 4 * a ^ 2 * 1e-10) ∧
        ∀ k x y, NearFactors a b c k x y →
          b = a * (x + y) ∧
            (c = a * (x * y) ∨ x = y ∧ |b ^ 2 - 4 * a * c| ≤ 1e-10)) := by
  change tolerance ≤ |a| at ha
  have ha0 : a ≠ 0 := abs_pos.mp (Exact.tolerance_pos.trans_le ha)
  have hcoefficients' := quadraticCoefficients_congr hcoefficients
  obtain ⟨square, hsquare, hsquare_states⟩ :=
    exists_solveCompletingSquare (hcoefficients' .completingSquare) ha
  refine ⟨_, _, _, square, solveQuadratic_of_le hcoefficients ha,
    solveQuadratic_of_le (hcoefficients' .quadraticFormula) ha,
    solveFactoring_of_le (hcoefficients' .factoringQuadratic) ha, hsquare, ?_⟩
  have hstandard := states_formulaSolution .standardQuadratic a b c
  have hformula := states_formulaSolution .quadraticFormula a b c
  have hfits : LabelFits (formulaSolution .standardQuadratic a b c) :=
    (rootsOf_eq_rootsAround ha0 b c ▸ hstandard).labelFits_around
  have hfits_square : LabelFits square :=
    (rootsOfSquare_eq _ _ ▸ hsquare_states).labelFits_around
  have hsame := (hstandard.agree_iff hformula).mpr rfl
  rw [← discriminant_eq, ← Exact.tolerance_eq, ← rootsOf_eq_rootsOfSquare_iff ha0,
    ← hstandard.agree_iff hsquare_states,
    ← agree_factoringSolution_iff ha b c .standardQuadratic]
  constructor
  · rintro ⟨-, hfactoring, hagree, -⟩
    exact ⟨hagree, hfactoring⟩
  · rintro ⟨hagree, hfactoring⟩
    exact ⟨hsame, hfactoring, hagree, hfits, hsame.labelFits hfits,
      hfactoring.labelFits hfits, hfits_square⟩

theorem eq_of_near {m n : ℤ} (h : |(m : ℝ) - n| < 1e-10) : m = n := by
  have hone : |(m : ℝ) - n| < 1 := h.trans (by norm_num)
  exact sub_eq_zero.mp (Int.abs_lt_one_iff.mp (by exact_mod_cast hone))

theorem strategies_agree_on_two_and_three :
    quadraticCoefficients (coefficientParams 1 (-5) 6) .standardQuadratic = .ok (1, -5, 6) ∧
      (1e-10 : ℝ) ≤ |1| ∧
      ∃ standard factoring square,
        solveKind .standardQuadratic (coefficientParams 1 (-5) 6) = .ok standard ∧
        solveKind .factoringQuadratic (coefficientParams 1 (-5) 6) = .ok factoring ∧
        solveKind .completingSquare (coefficientParams 1 (-5) 6) = .ok square ∧
        Agree standard factoring ∧ Agree standard square ∧ LabelFits standard := by
  have hcoefficients := quadraticCoefficients_coefficientParams 1 (-5) 6 .standardQuadratic
  have ha : (1e-10 : ℝ) ≤ |1| := by norm_num
  obtain ⟨standard, formula, factoring, square, hstandard, -, hfactoring, hsquare, hiff⟩ :=
    strategies_agree_iff _ 1 (-5) 6 hcoefficients ha
  obtain ⟨-, hagree, hagree', hfits, -⟩ := hiff.mpr (by
    refine ⟨by norm_num, fun k x y h => ?_⟩
    obtain rfl : 1 = k := eq_of_near (by simpa using h.leading.1)
    have hsum : -5 = 1 * (x + y) := eq_of_near (by simpa using h.linear.1)
    have hproduct : 6 = 1 * (x * y) := eq_of_near (by simpa using h.constant.1)
    exact ⟨by exact_mod_cast hsum, .inl (by exact_mod_cast hproduct)⟩)
  exact ⟨hcoefficients, ha, standard, factoring, square, hstandard, hfactoring, hsquare,
    hagree, hagree', hfits⟩

/-- With a constant just above 1 the answer to `x² + 2x + 1 = 0` is named a complex pair
and is a real root. -/
theorem not_labelFits_near_square :
    ∃ standard factoring,
      solveKind .standardQuadratic (coefficientParams 1 2 (1 + 5e-11)) = .ok standard ∧
      solveKind .factoringQuadratic (coefficientParams 1 2 (1 + 5e-11)) = .ok factoring ∧
      ¬ Agree standard factoring ∧ factoring.set = .discrete [-1] ∧
      factoring.label = "Two complex conjugate solutions" ∧ ¬ LabelFits factoring := by
  have ha : tolerance ≤ |(1 : ℝ)| := by
    rw [Exact.tolerance_eq]
    norm_num
  have hdelta : discriminant (1 : ℝ) 2 (1 + 5e-11) < -tolerance := by
    rw [discriminant_eq, Exact.tolerance_eq]
    norm_num
  have hfactors : NearFactors 1 2 (1 + 5e-11) 1 1 1 := by
    constructor <;> norm_num
  have hset : (factoringSolution 1 2 (1 + 5e-11)).set = .discrete [-1] := by
    simpa using set_factoringSolution ha hfactors
  have hlabel : (factoringSolution 1 2 (1 + 5e-11)).label =
      "Two complex conjugate solutions" := by
    rw [label_factoringSolution, rootsOf_of_lt_neg hdelta]
    rfl
  refine ⟨_, _, solveQuadratic_of_le (quadraticCoefficients_coefficientParams ..) ha,
    solveFactoring_of_le (quadraticCoefficients_coefficientParams ..) ha, ?_, hset, hlabel, ?_⟩
  · rintro ⟨-, hagree⟩
    rw [hset, (states_formulaSolution ..).set, rootsOf_of_lt_neg hdelta] at hagree
    cases hagree
  · simp [LabelFits, hset, hlabel]

end EquationTutor.Solve
