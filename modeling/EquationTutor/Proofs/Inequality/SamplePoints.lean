import EquationTutor.Interval
import EquationTutor.Proofs.Double.Middles
/-!
The samples of intervals of doubles. A sample lies in its interval unless the arithmetic loses it:
when the sum of the ends overflows, when a step of 1 from the end of a ray is rounded back, and
when the middle of two neighbouring ends is rounded to the end that is left out.
-/

namespace EquationTutor

open Double

namespace Bound

variable {l u : Bound Float} {a b x : Float}

theorem endPoint?_eq_some_iff : l.endPoint? = some a ↔ l = .openAt a ∨ l = .closedAt a := by
  cases l <;> simp [endPoint?]

theorem value_of_endPoint? (hl : l.endPoint? = some a) : l.value = a := by
  rcases endPoint?_eq_some_iff.mp hl with rfl | rfl <;> rfl

theorem isBelow_iff (hl : l.endPoint? = some a) (ha : a.isFinite = true) (hx : x.isFinite = true)
    (hle : rational a ≤ rational x) :
    l.isBelow x = true ↔ (rational x = rational a → l.isClosed = true) := by
  rcases endPoint?_eq_some_iff.mp hl with rfl | rfl
  · rw [isBelow, decide_eq_true_iff, lt_iff_rational ha hx, hle.lt_iff_ne']
    simp [isClosed]
  · rw [isBelow, decide_eq_true_iff, le_iff_rational ha hx]
    simp [hle, isClosed]

theorem isAbove_iff (hu : u.endPoint? = some b) (hb : b.isFinite = true) (hx : x.isFinite = true)
    (hge : rational x ≤ rational b) :
    u.isAbove x = true ↔ (rational x = rational b → u.isClosed = true) := by
  rcases endPoint?_eq_some_iff.mp hu with rfl | rfl
  · rw [isAbove, decide_eq_true_iff, lt_iff_rational hx hb, hge.lt_iff_ne]
    simp [isClosed]
  · rw [isAbove, decide_eq_true_iff, le_iff_rational hx hb]
    simp [hge, isClosed]

/-- The end is taken in if it is even. -/
def ClosedIfEven (l : Bound Float) : Prop :=
  IsEven (rational l.value) → l.isClosed = true

end Bound

namespace Interval

variable {l u : Bound Float} {a b : Float}

theorem sample_below (hu : u.endPoint? = some b) :
    (b - 1).isFinite = true ∧ u.isAbove (b - 1) = true ↔
      b.isFinite = true ∧ (u.isClosed = true ∨ StepsDown (rational b)) := by
  have hstep (hb : b.isFinite = true) :
      u.isAbove (b - 1) = true ↔ u.isClosed = true ∨ StepsDown (rational b) := by
    obtain ⟨hfinite, hrounding⟩ := isRounding_sub_one hb
    have hge := hrounding.ge_of_ge (representable_rational b) (by linarith)
    rw [Bound.isAbove_iff hu hb hfinite hge,
      ← lt_iff_stepsDown (representable_rational b) hrounding, hge.lt_iff_ne, imp_iff_not_or,
      or_comm]
  constructor
  · rintro ⟨hfinite, habove⟩
    have hb := (isFinite_of_isFinite_sub hfinite).1
    exact ⟨hb, (hstep hb).mp habove⟩
  · rintro ⟨hb, hclosed⟩
    exact ⟨(isRounding_sub_one hb).1, (hstep hb).mpr hclosed⟩

theorem sample_above (hl : l.endPoint? = some a) :
    (a + 1).isFinite = true ∧ l.isBelow (a + 1) = true ↔
      a.isFinite = true ∧ (l.isClosed = true ∨ StepsDown (-rational a)) := by
  have hstep (ha : a.isFinite = true) :
      l.isBelow (a + 1) = true ↔ l.isClosed = true ∨ StepsDown (-rational a) := by
    obtain ⟨hfinite, hrounding⟩ := isRounding_add_one ha
    have hle := hrounding.le_of_le (representable_rational a) (by linarith)
    have hmirror : IsRounding (-rational (a + 1)) (-rational a - 1) := by
      rw [← neg_add']
      exact hrounding.neg
    rw [Bound.isBelow_iff hl ha hfinite hle,
      ← lt_iff_stepsDown (representable_rational a).neg hmirror, neg_lt_neg_iff, hle.lt_iff_ne',
      imp_iff_not_or, or_comm]
  constructor
  · rintro ⟨hfinite, hbelow⟩
    have ha := (isFinite_of_isFinite_add hfinite).1
    exact ⟨ha, (hstep ha).mp hbelow⟩
  · rintro ⟨ha, hclosed⟩
    exact ⟨(isRounding_add_one ha).1, (hstep ha).mpr hclosed⟩

theorem sample_between (hl : l.endPoint? = some a) (hu : u.endPoint? = some b)
    (hsum : (a + b).isFinite = true) (hab : a < b) :
    (l.isBelow ((a + b) / 2) = true ∧ u.isAbove ((a + b) / 2) = true) ↔
      (∃ x : Float, a < x ∧ x < b) ∨ l.ClosedIfEven ∧ u.ClosedIfEven := by
  obtain ⟨ha, hb⟩ := isFinite_of_isFinite_add hsum
  obtain ⟨hfinite, hm⟩ := isRounding_half hsum
  have hs := isRounding_add hsum
  have hra := representable_rational a
  have hrb := representable_rational b
  have hlt := (lt_iff_rational ha hb).mp hab
  have hle := le_middle hs hm hra hlt.le
  have hge := middle_le hs hm hrb hlt.le
  rw [Bound.isBelow_iff hl ha hfinite hle, Bound.isAbove_iff hu hb hfinite hge]
  by_cases hbetween : ∃ x : Float, a < x ∧ x < b
  · obtain ⟨x, hxa, hbx⟩ := hbetween
    have hx := isFinite_of_lt_of_lt ha hb hxa hbx
    have hax := (lt_iff_rational ha hx).mp hxa
    have hxb := (lt_iff_rational hx hb).mp hbx
    have hrx := representable_rational x
    have hlower := lt_middle hs hm hra hrb hrx hax hxb
    have hupper := middle_lt hs hm hra hrb hrx hax hxb
    exact iff_of_true ⟨fun h => absurd h hlower.ne', fun h => absurd h hupper.ne⟩
      (.inl ⟨x, hxa, hbx⟩)
  · have hneighbours := neighbours_of_not_exists ha hb hlt hbetween
    obtain ⟨hlower, hupper⟩ := middle_eq_iff_isEven hs hm hneighbours hra hrb
    rw [or_iff_right hbetween, hlower, hupper, Bound.ClosedIfEven, Bound.ClosedIfEven,
      Bound.value_of_endPoint? hl, Bound.value_of_endPoint? hu]

theorem sample_point (hsum : (a + a).isFinite = true) :
    a ≤ (a + a) / 2 ∧ (a + a) / 2 ≤ a := by
  obtain ⟨ha, -⟩ := isFinite_of_isFinite_add hsum
  obtain ⟨hfinite, hm⟩ := isRounding_half hsum
  have hs := isRounding_add hsum
  rw [le_iff_rational ha hfinite, le_iff_rational hfinite ha]
  exact ⟨le_middle hs hm (representable_rational a) le_rfl,
    middle_le hs hm (representable_rational a) le_rfl⟩

theorem sample_ends (hl : l.endPoint? = some a) (hu : u.endPoint? = some b)
    (h : a < b ∨ ∃ v, (⟨l, u⟩ : Interval Float) = point v) :
    ((a + b) / 2).isFinite = true ∧ (⟨l, u⟩ : Interval Float).contains ((a + b) / 2) = true ↔
      (a + b).isFinite = true ∧
        ((∃ x : Float, a < x ∧ x < b) ∨ l.ClosedIfEven ∧ u.ClosedIfEven) := by
  rw [contains, Bool.and_eq_true]
  have hinside (hsum : (a + b).isFinite = true) :
      (l.isBelow ((a + b) / 2) = true ∧ u.isAbove ((a + b) / 2) = true) ↔
        (∃ x : Float, a < x ∧ x < b) ∨ l.ClosedIfEven ∧ u.ClosedIfEven := by
    rcases h with hab | ⟨v, hv⟩
    · exact sample_between hl hu hsum hab
    · rw [point, mk.injEq] at hv
      obtain ⟨rfl, rfl⟩ := hv
      obtain rfl : v = a := by simpa [Bound.endPoint?] using hl
      obtain rfl : v = b := by simpa [Bound.endPoint?] using hu
      obtain ⟨hle, hge⟩ := sample_point hsum
      exact iff_of_true ⟨decide_eq_true hle, decide_eq_true hge⟩
        (.inr ⟨fun _ => rfl, fun _ => rfl⟩)
  constructor
  · rintro ⟨hfinite, hmem⟩
    have hsum := isFinite_of_isFinite_div hfinite
    exact ⟨hsum, (hinside hsum).mp hmem⟩
  · rintro ⟨hsum, hends⟩
    exact ⟨(isRounding_half hsum).1, (hinside hsum).mpr hends⟩

/-- Where the sample of an interval is one of its numbers: always for the line; for rays, if the
step from the end is not lost; and for other intervals, if the sum of the ends does not overflow
and there is a double between them or the even one of them is taken in. -/
def SamplesInside : Interval Float → Prop
  | ⟨.negInfinity, .posInfinity⟩ => True
  | ⟨.negInfinity, u⟩ =>
    u.value.isFinite = true ∧ (u.isClosed = true ∨ StepsDown (rational u.value))
  | ⟨l, .posInfinity⟩ =>
    l.value.isFinite = true ∧ (l.isClosed = true ∨ StepsDown (-rational l.value))
  | ⟨l, u⟩ =>
    (l.value + u.value).isFinite = true ∧
      ((∃ x : Float, l.value < x ∧ x < u.value) ∨ l.ClosedIfEven ∧ u.ClosedIfEven)

/-- The lower end is below the upper end, or the interval is a single number. -/
def Ordered (i : Interval Float) : Prop :=
  i.lower.value < i.upper.value ∨ ∃ v, i = point v

theorem sample_posInfinity {x : Float} :
    (x.isFinite = true ∧ (⟨.posInfinity, u⟩ : Interval Float).contains x = true) ↔
      (⟨.posInfinity, u⟩ : Interval Float).SamplesInside := by
  have hpos : ¬ (Scalar.infinity : Float).isFinite = true := Bool.false_ne_true
  refine iff_of_false (fun h => Bool.false_ne_true h.2) ?_
  cases u with
  | posInfinity => exact fun h => hpos h.1
  | _ => exact fun h => hpos (isFinite_of_isFinite_add h.1).1

theorem sample_negInfinity {x : Float} :
    (x.isFinite = true ∧ (⟨l, .negInfinity⟩ : Interval Float).contains x = true) ↔
      (⟨l, .negInfinity⟩ : Interval Float).SamplesInside := by
  have hneg : ¬ (-Scalar.infinity : Float).isFinite = true := Bool.false_ne_true
  rw [contains, Bound.isAbove, Bool.and_false]
  refine iff_of_false (fun h => Bool.false_ne_true h.2) ?_
  cases l with
  | negInfinity => exact fun h => hneg h.1
  | _ => exact fun h => hneg (isFinite_of_isFinite_add h.1).2

/-- The sample of an interval is a finite number of it just if no rounding leads out of it. -/
theorem contains_sample_iff {i : Interval Float} (h : i.Ordered) :
    (i.sample.isFinite = true ∧ i.contains i.sample = true) ↔ i.SamplesInside := by
  obtain ⟨l, u⟩ := i
  cases l with
  | posInfinity => exact sample_posInfinity
  | negInfinity =>
      cases u with
      | negInfinity => exact sample_negInfinity
      | posInfinity => exact iff_of_true ⟨rfl, rfl⟩ trivial
      | openAt b => exact sample_below (u := .openAt b) (b := b) rfl
      | closedAt b => exact sample_below (u := .closedAt b) (b := b) rfl
  | openAt a =>
      cases u with
      | negInfinity => exact sample_negInfinity
      | posInfinity =>
          rw [contains, Bound.isAbove, Bool.and_true]
          exact sample_above (l := .openAt a) (a := a) rfl
      | openAt b => exact sample_ends rfl rfl h
      | closedAt b => exact sample_ends rfl rfl h
  | closedAt a =>
      cases u with
      | negInfinity => exact sample_negInfinity
      | posInfinity =>
          rw [contains, Bound.isAbove, Bool.and_true]
          exact sample_above (l := .closedAt a) (a := a) rfl
      | openAt b => exact sample_ends rfl rfl h
      | closedAt b => exact sample_ends rfl rfl h

theorem contains_sample_one_two :
    (⟨.openAt 1, .closedAt 2⟩ : Interval Float).Ordered ∧
      (⟨.openAt 1, .closedAt 2⟩ : Interval Float).sample.isFinite = true ∧
        (⟨.openAt 1, .closedAt 2⟩ : Interval Float).contains
          (⟨.openAt 1, .closedAt 2⟩ : Interval Float).sample = true := by
  have hends : (1 : Float) < 2 ∧ ((1 : Float) + 2).isFinite = true ∧ (1 : Float) < 1.5 ∧
      (1.5 : Float) < 2 := by
    decide +kernel
  obtain ⟨hlt, hsum, hbetween⟩ := hends
  have hordered : (⟨.openAt 1, .closedAt 2⟩ : Interval Float).Ordered := .inl hlt
  exact ⟨hordered, (contains_sample_iff hordered).mpr ⟨hsum, .inl ⟨1.5, hbetween⟩⟩⟩

/-- The sum of the ends overflows, though they are one number. -/
theorem not_contains_sample_point :
    (1.7e308 : Float).isFinite = true ∧ (point (1.7e308 : Float)).contains 1.7e308 = true ∧
      ¬ ((point (1.7e308 : Float)).sample.isFinite = true ∧
        (point (1.7e308 : Float)).contains (point (1.7e308 : Float)).sample = true) := by
  decide +kernel

end Interval

end EquationTutor
