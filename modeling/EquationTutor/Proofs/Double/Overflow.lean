import EquationTutor.Proofs.Double.Middles
/-!
Where the range of doubles ends. Exact numbers are rounded to finite doubles below the middle
between the greatest of them and the next power of two, and to zero up to half the least unit.
-/

open Float.Model Float.Model.UnpackedFloat

namespace EquationTutor.Double

section Thresholds

variable {a b q x : ℚ}

/-- The middle of two neighbours is rounded to the upper one if that one is even. -/
theorem IsRounding.lt_iff (h : IsRounding q x) (hab : Neighbours a b) (ha : Representable a)
    (hb : Representable b) (heven : IsEven b) : q < b ↔ x < (a + b) / 2 := by
  have hlt := hab.1
  have hlower := h.le a ha
  have hupper := h.le b hb
  constructor
  · intro hqb
    have hqa : q ≤ a := by
      by_contra haq
      exact hab.2 q h.representable ⟨not_le.mp haq, hqb⟩
    by_contra hx
    have hxb : x < b := by
      by_contra hbx
      exact hqb.not_ge (h.le_of_le hb (not_lt.mp hbx))
    rw [abs_of_neg (by linarith), abs_of_pos (by linarith)] at hupper
    have htie : |q - x| = |b - x| := by
      rw [abs_of_neg (by linarith), abs_of_pos (by linarith)]
      linarith
    have hq : IsEven q := h.isEven b hb hqb.ne' htie
    obtain rfl : q = a := by linarith
    exact hab.not_isEven hq heven
  · intro hx
    by_contra hbq
    rw [abs_of_pos (by linarith)] at hlower
    rcases le_total a x with hax | hxa
    · rw [abs_of_nonpos (by linarith)] at hlower
      linarith
    · rw [abs_of_nonneg (by linarith)] at hlower
      linarith

theorem IsEven.representable (h : IsEven q) : Representable q := by
  obtain ⟨k, f, hk, hf, rfl⟩ := h
  exact ⟨k, f, hk.trans (by decide), by omega, rfl⟩

theorem neighbours_longest (f : ℤ) :
    Neighbours ((2 ^ 53 - 1) * 2 ^ f) (2 ^ 53 * 2 ^ f) := by
  have hunit : (0 : ℚ) < 2 ^ f := zpow_pos two_pos f
  refine ⟨mul_lt_mul_of_pos_right (by norm_num) hunit, ?_⟩
  rintro _ ⟨k, g, hk, -, rfl⟩ ⟨hlower, hupper⟩
  rcases le_or_gt g f with hgf | hfg
  · have hmantissa : (k : ℚ) ≤ 2 ^ 53 - 1 := by
      have := (abs_lt.mp hk).2
      exact_mod_cast (by omega : k ≤ 2 ^ 53 - 1)
    have hexponent : (2 : ℚ) ^ g ≤ 2 ^ f := zpow_le_zpow_right₀ one_le_two hgf
    exact hlower.not_ge (mul_le_mul hmantissa hexponent (by positivity) (by norm_num))
  · rw [mul_zpow_eq k hfg.le] at hlower hupper
    have hlower := lt_of_mul_lt_mul_right hlower hunit.le
    have hupper := lt_of_mul_lt_mul_right hupper hunit.le
    obtain ⟨n, hn⟩ : ∃ n : ℤ, n = k * 2 ^ (g - f).toNat := ⟨_, rfl⟩
    rw [← hn] at hlower hupper
    have hlower : (2 ^ 53 - 1 : ℤ) < n := by exact_mod_cast hlower
    have hupper : n < (2 ^ 53 : ℤ) := by exact_mod_cast hupper
    omega

/-- The least magnitude that is rounded out of the range: the middle between the greatest double
and `2 ^ 1024`. -/
def overflowBound : ℚ :=
  (2 ^ 53 - 1 / 2) * 2 ^ (971 : ℤ)

theorem IsRounding.abs_lt_iff (h : IsRounding q x) :
    |q| < 2 ^ 53 * 2 ^ (971 : ℤ) ↔ |x| < overflowBound := by
  have hneighbours := neighbours_longest 971
  rw [overflowBound]
  obtain ⟨f, hf⟩ : ∃ f : ℤ, f = 971 := ⟨_, rfl⟩
  rw [← hf] at hneighbours ⊢
  have hgreatest : Representable ((2 ^ 53 - 1) * 2 ^ f) :=
    ⟨2 ^ 53 - 1, f, by decide, by omega, by norm_num⟩
  have hbeyond : IsEven (2 ^ 53 * 2 ^ f) := by
    have heven := isEven_of_abs_le (n := 2 ^ 53) (f := f) (by decide) (by decide) (by omega)
    exact_mod_cast heven
  have hmiddle : ((2 ^ 53 - 1) * 2 ^ f + 2 ^ 53 * 2 ^ f : ℚ) / 2 = (2 ^ 53 - 1 / 2) * 2 ^ f := by
    ring
  have hupper := h.lt_iff hneighbours hgreatest hbeyond.representable hbeyond
  have hlower := h.neg.lt_iff hneighbours hgreatest hbeyond.representable hbeyond
  rw [hmiddle] at hupper hlower
  rw [abs_lt, abs_lt, hupper, neg_lt, hlower, neg_lt]

/-- The greatest magnitude that is rounded to zero. -/
def underflowBound : ℚ :=
  leastUnit / 2

theorem neighbours_zero : Neighbours (-leastUnit) 0 := by
  refine ⟨neg_lt_zero.mpr leastUnit_pos, ?_⟩
  intro x hx hbetween
  obtain ⟨n, rfl⟩ := hx.exists_units
  have hlower : ((-1 : ℤ) : ℚ) * leastUnit < n * leastUnit := by simpa using hbetween.1
  have hupper : (n : ℚ) * leastUnit < (0 : ℤ) * leastUnit := by simpa using hbetween.2
  rw [units_lt_units] at hlower hupper
  omega

theorem isEven_zero : IsEven 0 :=
  ⟨0, 0, by decide, by decide, by simp⟩

theorem IsRounding.eq_zero_iff (h : IsRounding q x) : q = 0 ↔ |x| ≤ underflowBound := by
  have hunit : Representable leastUnit := by
    simpa using representable_units (i := 1) (by decide)
  have hmiddle : (-leastUnit + 0) / 2 = -underflowBound := by
    rw [underflowBound]
    ring
  have hupper := h.lt_iff neighbours_zero hunit.neg representable_zero isEven_zero
  have hlower := h.neg.lt_iff neighbours_zero hunit.neg representable_zero isEven_zero
  rw [hmiddle] at hupper hlower
  rw [le_antisymm_iff, ← not_lt, ← not_lt, ← neg_lt_zero, hupper, hlower, abs_le, neg_lt_neg_iff,
    not_lt, not_lt, and_comm]

end Thresholds

section Range

variable {u : UnpackedFloat} {x y : Float} {q r : ℚ}

theorem isFinite_iff_exists_below : u.isFinite = true ↔ ∃ k, Below k u := by
  cases u with
  | notANumber => simp [UnpackedFloat.isFinite, Below]
  | infinity s => simp [UnpackedFloat.isFinite, Below]
  | zero s => exact iff_of_true rfl ⟨0, trivial⟩
  | finite s m e hm => exact iff_of_true rfl ⟨m.log2 + e + 1, Int.lt_succ _⟩

/-- Parts that are rounded without a bound are packed into a finite double below the bound. -/
theorem isFinite_repack_iff (hu : Canonical u) (hfinite : u.isFinite = true)
    (h : IsRounding (rationalOf u) q) :
    (repack u).isFinite = true ↔ |q| < overflowBound := by
  rw [← h.abs_lt_iff]
  constructor
  · intro hpacked
    have hvalue := abs_rational_lt (x := Float.ofModel (Float.Model.pack u)) hpacked
    have hunpack : (Float.ofModel (Float.Model.pack u)).toModel.unpack = u :=
      repack_of_isFinite hu hpacked
    rwa [rational, hunpack] at hvalue
  · intro hlt
    obtain ⟨k, hk⟩ := isFinite_iff_exists_below.mp hfinite
    rwa [repack_of_below hu (below_of_abs_rationalOf_lt hk hlt)]

/-- The double is the exact number rounded, and infinite out of the range. -/
structure RoundsTo (x : Float) (q : ℚ) : Prop where
  isNaN_eq_false : x.isNaN = false
  isFinite_iff : x.isFinite = true ↔ |q| < overflowBound
  isRounding : x.isFinite = true → IsRounding (rational x) q

theorem roundsTo_of_unpack (hu : Canonical u) (hfinite : u.isFinite = true)
    (h : IsRounding (rationalOf u) q) (hx : x.toModel.unpack = repack u) : RoundsTo x q := by
  refine ⟨?_, ?_, ?_⟩
  · rw [Double.isNaN_eq_false_iff, hx, sign?_repack]
    revert hfinite
    cases u <;> simp [UnpackedFloat.isFinite]
  · change x.toModel.unpack.isFinite = true ↔ _
    rw [hx, isFinite_repack_iff hu hfinite h]
  · intro hpacked
    change x.toModel.unpack.isFinite = true at hpacked
    rw [hx] at hpacked
    rwa [rational, hx, repack_of_isFinite hu hpacked]

theorem rational_neg (hx : x.isFinite = true) : rational (-x) = -rational x := by
  have hcanonical := canonical_neg (canonical_unpack x)
  rw [rational, unpack_neg, repack_of_below hcanonical (below_neg (below_of_isFinite hx)),
    rationalOf_neg, rational]

theorem beq_zero_iff (hx : x.isFinite = true) : (x == 0) = true ↔ rational x = 0 := by
  have hzero : (0 : Float).isFinite = true := rfl
  have hvalue : rational 0 = 0 := rfl
  rw [beq_iff_le_and_le, le_iff_rational hx hzero, le_iff_rational hzero hx, hvalue,
    le_antisymm_iff]

theorem isNonzero_of_rational_ne (hx : x.isFinite = true) (h : rational x ≠ 0) : IsNonzero x := by
  obtain ⟨s, hzero⟩ | hnonzero := isFinite_iff.mp hx
  · refine absurd ?_ h
    rw [rational, hzero]
    rfl
  · exact hnonzero

theorem isFinite_of_beq_zero (h : (x == 0) = true) : x.isFinite = true := by
  rw [isFinite_eq_of_beq h]
  rfl

theorem underflowBound_lt_one : underflowBound < 1 := by
  have hleast : leastUnit ≤ 1 := zpow_le_one_of_nonpos₀ one_le_two (by decide)
  rw [underflowBound]
  linarith

theorem lt_overflowBound (h : q ≤ 2 ^ 52) : q < overflowBound := by
  have hlast : (1 : ℚ) ≤ 2 ^ (971 : ℤ) := one_le_zpow₀ one_le_two (by decide)
  rw [overflowBound]
  calc
    q < 2 ^ 53 - 1 / 2 := by linarith
    _ ≤ (2 ^ 53 - 1 / 2) * 2 ^ (971 : ℤ) := le_mul_of_one_le_right (by norm_num) hlast

theorem underflowBound_lt : underflowBound < overflowBound :=
  underflowBound_lt_one.trans (lt_overflowBound (by norm_num))

theorem isFinite_roundWithAccuracy (s : Sign) (m : Nat) (e : Int) (a : Accuracy) :
    (roundWithAccuracy .binary64 s m e a).isFinite = true := by
  obtain ⟨-, hr⟩ | ⟨-, _, hr⟩ | ⟨-, _, hr⟩ := roundWithAccuracy_cases s m e a <;> rw [hr] <;> rfl

theorem roundsTo_div (hx : x.isFinite = true) (hy : IsNonzero y) :
    RoundsTo (x / y) (rational x / rational y) := by
  have hcanonical := canonical_div (canonical_unpack x) (canonical_unpack y)
  obtain ⟨t, n, f, hn, hy⟩ := hy
  refine roundsTo_of_unpack hcanonical ?_ ?_ (unpack_div x y)
  · rw [hy]
    obtain ⟨s, hx⟩ | ⟨s, m, e, hm, hx⟩ := isFinite_iff.mp hx
    · rw [hx]
      rfl
    · rw [hx, div_finite]
      exact isFinite_roundWithAccuracy _ _ _ _
  · rw [rational, rational, hy]
    exact isRounding_divParts hx hn

theorem isFinite_addParts {u v : UnpackedFloat} (hu : Below 1024 u) (hv : Below 1024 v) :
    (UnpackedFloat.add .binary64 u v).isFinite = true :=
  isFinite_iff_exists_below.mpr ⟨1026, below_add hu hv (by decide) (by decide)⟩

theorem roundsTo_add (hx : x.isFinite = true) (hy : y.isFinite = true) :
    RoundsTo (x + y) (rational x + rational y) :=
  roundsTo_of_unpack (canonical_add (canonical_unpack x) (canonical_unpack y))
    (isFinite_addParts (below_of_isFinite hx) (below_of_isFinite hy))
    (isRounding_addParts (canonical_unpack x) (canonical_unpack y) hx hy) (unpack_add x y)

theorem roundsTo_sub (hx : x.isFinite = true) (hy : y.isFinite = true) :
    RoundsTo (x - y) (rational x - rational y) := by
  have hcanonical := canonical_neg (canonical_unpack y)
  rw [rational_sub_rational]
  refine roundsTo_of_unpack (canonical_add (canonical_unpack x) hcanonical)
    (isFinite_addParts (below_of_isFinite hx) (below_neg (below_of_isFinite hy)))
    (isRounding_addParts (canonical_unpack x) hcanonical hx (isFinite_negParts hy)) ?_
  rw [unpack_sub, sub_eq_add_neg]

theorem not_isFinite_iff : ¬ x.isFinite = true ↔
    x.toModel.unpack = .notANumber ∨ ∃ s, x.toModel.unpack = .infinity s := by
  change ¬ x.toModel.unpack.isFinite = true ↔ _
  cases x.toModel.unpack <;> simp [UnpackedFloat.isFinite]

theorem unpack_div_notANumber (hy : y.toModel.unpack = .notANumber) :
    (x / y).toModel.unpack = .notANumber := by
  rw [unpack_div, hy]
  cases x.toModel.unpack <;> exact repack_notANumber

/-- An infinite divisor leaves zero, and a divisor that is not a number leaves no number. -/
theorem isFinite_div_iff (hy : (y == 0) = false) : (x / y).isFinite = true ↔
    x.isFinite = true ∧ y.isNaN = false ∧
      (y.isFinite = true → |rational x / rational y| < overflowBound) := by
  rw [Double.isNaN_eq_false_iff]
  by_cases hfinite : y.isFinite = true
  · have hnonzero : IsNonzero y := by
      refine isNonzero_of_rational_ne hfinite fun hvalue => ?_
      rw [(beq_zero_iff hfinite).mpr hvalue] at hy
      cases hy
    have hnan := isNaN_eq_false_iff.mp (isNaN_eq_false_of_isFinite hfinite)
    constructor
    · intro h
      have hx := isFinite_of_isFinite_div h
      exact ⟨hx, hnan, fun _ => (roundsTo_div hx hnonzero).isFinite_iff.mp h⟩
    · rintro ⟨hx, -, hbound⟩
      exact (roundsTo_div hx hnonzero).isFinite_iff.mpr (hbound hfinite)
  · obtain hnan | ⟨t, hinfinite⟩ := not_isFinite_iff.mp hfinite
    · have hquotient : ¬ (x / y).isFinite = true :=
        not_isFinite_iff.mpr (.inl (unpack_div_notANumber hnan))
      simp [hquotient, hnan]
    · have hquotient (hx : x.isFinite = true) : (x / y).isFinite = true :=
        isFinite_iff.mpr (.inl (unpack_div_infinity hx hinfinite))
      simp only [hinfinite, sign?_infinity, Option.isSome_some, hfinite,
        Bool.false_eq_true, false_imp_iff, and_true]
      exact ⟨isFinite_of_isFinite_div, hquotient⟩

theorem zero_div_beq_zero (h : (0 / y).isFinite = true) : (0 / y == 0) = true := by
  have hzero : (0 : Float).toModel.unpack = .zero .positive := rfl
  rw [beq_zero_iff h, rational]
  change (0 / y).toModel.unpack.isFinite = true at h
  rw [unpack_div, hzero] at h ⊢
  revert h
  cases y.toModel.unpack <;> simp [UnpackedFloat.div, UnpackedFloat.isFinite, rationalOf]

section Products

variable (s t : Sign) {m n : Nat} {e f : Int} (hm : 0 < m) (hn : 0 < n)

theorem mul_finite : UnpackedFloat.mul .binary64 (.finite s m e hm) (.finite t n f hn) =
    roundWithAccuracy .binary64 (s * t) (m * n) (e + f) .exact :=
  rfl

theorem isRounding_mulParts (h : 52 ≤ (m * n).log2 ∨ e + f ≤ -1074) :
    IsRounding (rationalOf (UnpackedFloat.mul .binary64 (.finite s m e hm) (.finite t n f hn)))
      (rationalOf (.finite s m e hm) * rationalOf (.finite t n f hn)) := by
  have hsign : (((s * t).apply 1 : ℤ) : ℚ) = (s.apply 1 : ℤ) * (t.apply 1 : ℤ) := by
    cases s <;> cases t <;> norm_cast
  have hproduct : rationalOf (.finite s m e hm) * rationalOf (.finite t n f hn) =
      ((s * t).apply 1 : ℤ) * (((m * n : Nat) : ℚ) * 2 ^ (e + f)) := by
    rw [rationalOf, rationalOf, cast_apply, cast_apply t n, hsign, zpow_add₀ two_ne_zero]
    push_cast
    ring
  rw [hproduct, mul_finite]
  exact isRounding_roundWithAccuracy h (standsFor_exact (m * n)) (s * t)

end Products

theorem roundsTo_mul (hx : x.isFinite = true) (hy : y.isFinite = true) :
    RoundsTo (x * y) (rational x * rational y) := by
  have hu := canonical_unpack x
  have hv := canonical_unpack y
  have hcanonical := canonical_mul hu hv
  suffices hparts :
      (UnpackedFloat.mul .binary64 x.toModel.unpack y.toModel.unpack).isFinite = true ∧
      IsRounding (rationalOf (UnpackedFloat.mul .binary64 x.toModel.unpack y.toModel.unpack))
        (rational x * rational y) from
    roundsTo_of_unpack hcanonical hparts.1 hparts.2 (unpack_mul x y)
  have hzero {s : Sign} {r : ℚ} (hr : r = 0) : IsRounding (rationalOf (.zero s)) r := by
    rw [hr]
    exact representable_zero.isRounding
  rw [rational, rational]
  obtain ⟨s, hx⟩ | ⟨s, m, e, hm, hx⟩ := isFinite_iff.mp hx <;>
    obtain ⟨t, hy⟩ | ⟨t, n, f, hn, hy⟩ := isFinite_iff.mp hy <;> rw [hx, hy]
  · exact ⟨rfl, hzero (zero_mul _)⟩
  · exact ⟨rfl, hzero (zero_mul _)⟩
  · exact ⟨rfl, hzero (mul_zero _)⟩
  · rw [hx] at hu
    rw [hy] at hv
    refine ⟨isFinite_roundWithAccuracy _ _ _ _, isRounding_mulParts s t hm hn ?_⟩
    have hlog := log2_mul_le hm.ne' hn.ne'
    have hm' := log2_of_canonical hu
    have hn' := log2_of_canonical hv
    omega

namespace RoundsTo

theorem neg (h : RoundsTo x q) : RoundsTo (-x) (-q) := by
  refine ⟨?_, ?_, fun hfinite => ?_⟩
  · rw [Double.isNaN_eq_false_iff, unpack_neg, sign?_repack]
    have hnan := isNaN_eq_false_iff.mp h.isNaN_eq_false
    revert hnan
    cases x.toModel.unpack <;> simp [UnpackedFloat.neg]
  · rw [isFinite_neg_iff, abs_neg, h.isFinite_iff]
  · have hx := isFinite_neg_iff.mp hfinite
    rw [rational_neg hx]
    exact (h.isRounding hx).neg

theorem beq_zero_iff (h : RoundsTo x q) : (x == 0) = true ↔ |q| ≤ underflowBound := by
  by_cases hx : x.isFinite = true
  · rw [Double.beq_zero_iff hx, (h.isRounding hx).eq_zero_iff]
  · refine iff_of_false (fun hzero => hx (isFinite_of_beq_zero hzero)) fun hq => ?_
    exact hx (h.isFinite_iff.mpr (hq.trans_lt underflowBound_lt))

end RoundsTo

/-- Two numbers whose sum, difference or product `q` is in the range of the doubles. -/
structure WithinRange (x y : Float) (q : ℚ) : Prop where
  left : x.isFinite = true
  right : y.isFinite = true
  abs_lt : |q| < overflowBound

/-- Two numbers whose quotient is in the range of the doubles. An infinite divisor leaves zero. -/
structure QuotientWithinRange (x y : Float) : Prop where
  dividend : x.isFinite = true
  divisor : y.isNaN = false
  divisor_ne_zero : (y == 0) = false
  abs_lt : y.isFinite = true → |rational x / rational y| < overflowBound

theorem isFinite_add_iff :
    (x + y).isFinite = true ↔ WithinRange x y (rational x + rational y) := by
  constructor
  · intro h
    obtain ⟨hx, hy⟩ := isFinite_of_isFinite_add h
    exact ⟨hx, hy, (roundsTo_add hx hy).isFinite_iff.mp h⟩
  · rintro ⟨hx, hy, hlt⟩
    exact (roundsTo_add hx hy).isFinite_iff.mpr hlt

theorem isFinite_sub_iff :
    (x - y).isFinite = true ↔ WithinRange x y (rational x - rational y) := by
  constructor
  · intro h
    obtain ⟨hx, hy⟩ := isFinite_of_isFinite_sub h
    exact ⟨hx, hy, (roundsTo_sub hx hy).isFinite_iff.mp h⟩
  · rintro ⟨hx, hy, hlt⟩
    exact (roundsTo_sub hx hy).isFinite_iff.mpr hlt

theorem isFinite_mul_iff :
    (x * y).isFinite = true ↔ WithinRange x y (rational x * rational y) := by
  constructor
  · intro h
    obtain ⟨hx, hy⟩ := isFinite_of_isFinite_mul h
    exact ⟨hx, hy, (roundsTo_mul hx hy).isFinite_iff.mp h⟩
  · rintro ⟨hx, hy, hlt⟩
    exact (roundsTo_mul hx hy).isFinite_iff.mpr hlt

theorem not_isFinite_div_zero (hy : (y == 0) = true) : ¬ (x / y).isFinite = true := by
  obtain ⟨s, hzero⟩ : ∃ s, y.toModel.unpack = .zero s := by
    rcases eq_or_zeros_of_beq hy with rfl | ⟨rfl, -⟩ | ⟨rfl, -⟩ <;> exact ⟨_, rfl⟩
  intro h
  have hparts := isFinite_of_isFinite_repack h
  rw [hzero] at hparts
  revert hparts
  cases x.toModel.unpack <;> simp [UnpackedFloat.div, UnpackedFloat.isFinite]

theorem isFinite_quotient_iff : (x / y).isFinite = true ↔ QuotientWithinRange x y := by
  constructor
  · intro h
    have hy : (y == 0) = false := Bool.eq_false_iff.mpr fun hzero => not_isFinite_div_zero hzero h
    obtain ⟨hx, hnan, hlt⟩ := (isFinite_div_iff hy).mp h
    exact ⟨hx, hnan, hy, hlt⟩
  · rintro ⟨hx, hnan, hy, hlt⟩
    exact (isFinite_div_iff hy).mpr ⟨hx, hnan, hlt⟩

end Range

end EquationTutor.Double
