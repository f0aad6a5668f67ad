import EquationTutor.Proofs.Double.Rationals
import EquationTutor.Proofs.Step.Signs
/-!
The form in which numbers are displayed: a whole part without superfluous zeros and at most six
digits behind the point, the last of which is not zero. A finite double is displayed by the
nearest number that has such a form.
-/

open Float.Model Float.Model.UnpackedFloat

namespace EquationTutor

namespace Binary64

theorem cast_signed (negative : Bool) (n : Nat) :
    (signed negative n : ℚ) = (signed negative 1 : ℤ) * n := by
  cases negative <;> simp [signed]

theorem abs_signed_one (negative : Bool) : |((signed negative 1 : ℤ) : ℚ)| = 1 := by
  cases negative <;> simp [signed]

def rational (b : Binary64) : ℚ :=
  signed b.negative b.significand * 2 ^ b.exponent

theorem denominator_pos (b : Binary64) : 0 < b.denominator :=
  Nat.two_pow_pos _

theorem rational_eq (b : Binary64) :
    b.rational = (signed b.negative 1 : ℤ) * (b.numerator / b.denominator) := by
  have hexponent : b.exponent = b.exponent.toNat - (-b.exponent).toNat := by omega
  have hpower : (2 : ℚ) ^ b.exponent = 2 ^ b.exponent.toNat / 2 ^ (-b.exponent).toNat := by
    conv_lhs => rw [hexponent, zpow_sub₀ two_ne_zero, zpow_natCast, zpow_natCast]
  rw [rational, cast_signed, hpower]
  simp only [numerator, denominator, Nat.pow_eq]
  push_cast
  ring

section Rounding

variable (num : Nat) {den : Nat} (hden : 0 < den)
include hden

theorem roundHalfEven_bounds :
    2 * (roundHalfEven num den * den) ≤ 2 * num + den ∧
      2 * num ≤ 2 * (roundHalfEven num den * den) + den := by
  have hdivision := Nat.div_add_mod' num den
  have hremainder := Nat.mod_lt num hden
  have hnext : (num / den + 1) * den = num / den * den + den := Nat.succ_mul _ _
  rw [roundHalfEven]
  split
  · omega
  · split
    · omega
    · split <;> omega

theorem abs_roundHalfEven_sub_le : |(roundHalfEven num den : ℚ) - num / den| ≤ 1 / 2 := by
  obtain ⟨hupper, hlower⟩ := roundHalfEven_bounds num hden
  have hden : (0 : ℚ) < den := by exact_mod_cast hden
  have hupper : 2 * (roundHalfEven num den * den : ℚ) ≤ 2 * num + den := by exact_mod_cast hupper
  have hlower : 2 * (num : ℚ) ≤ 2 * (roundHalfEven num den * den) + den := by
    exact_mod_cast hlower
  have hdistance : (roundHalfEven num den : ℚ) - num / den =
      (roundHalfEven num den * den - num) / den := by
    rw [sub_div, mul_div_cancel_right₀ _ hden.ne']
  rw [hdistance, abs_div, abs_of_pos hden, div_le_iff₀ hden, abs_le]
  constructor <;> linarith

end Rounding

theorem abs_nearestOver_sub_le (scale : Nat) (b : Binary64) :
    |(nearestOver scale b : ℚ) - scale * b.rational| ≤ 1 / 2 := by
  have hround := abs_roundHalfEven_sub_le (scale * b.numerator) b.denominator_pos
  have hsign : (nearestOver scale b : ℚ) - scale * b.rational =
      (signed b.negative 1 : ℤ) * ((roundHalfEven (scale * b.numerator) b.denominator : ℚ) -
        (scale * b.numerator : Nat) / b.denominator) := by
    rw [nearestOver, cast_signed, rational_eq]
    push_cast
    ring
  rwa [hsign, abs_mul, abs_signed_one, one_mul]

end Binary64

namespace Double

variable {x : Float}

theorem signed_isNegative (s : Sign) (m : Nat) :
    Binary64.signed (isNegative s) m = s.apply m := by
  cases s <;> rfl

theorem exists_ofFloat? (hx : x.isFinite = true) :
    ∃ b, Binary64.ofFloat? x = some b ∧ b.rational = rational x := by
  rw [ofFloat?_eq_fraction?, rational]
  obtain ⟨s, hx⟩ | ⟨s, m, e, hm, hx⟩ := isFinite_iff.mp hx
  · rw [hx]
    refine ⟨_, rfl, ?_⟩
    rw [Binary64.rational, Binary64.cast_signed, Nat.cast_zero, mul_zero, zero_mul]
    rfl
  · rw [hx]
    refine ⟨_, rfl, ?_⟩
    rw [Binary64.rational, signed_isNegative, rationalOf]

theorem abs_millionths_sub_le (hx : x.isFinite = true) :
    |(Scalar.millionths x : ℚ) - 1000000 * rational x| ≤ 1 / 2 := by
  obtain ⟨b, hb, hvalue⟩ := exists_ofFloat? hx
  have hmillionths : Scalar.millionths x = b.nearestOver 1000000 := by
    change ((Binary64.ofFloat? x).map (Binary64.nearestOver 1000000)).getD 0 = _
    rw [hb, Option.map_some, Option.getD_some]
  rw [hmillionths, ← hvalue]
  exact_mod_cast b.abs_nearestOver_sub_le 1000000

/-- No number of millionths comes nearer to a double than the one it is rounded to. -/
theorem millionths_nearest (hx : x.isFinite = true) (n : ℤ) :
    |(Scalar.millionths x : ℚ) / 1000000 - rational x| ≤ |(n : ℚ) / 1000000 - rational x| := by
  have hscale (k : ℤ) : (k : ℚ) / 1000000 - rational x =
      (k - 1000000 * rational x) / 1000000 := by ring
  have hnearest := (abs_sub_le_of_half (abs_millionths_sub_le hx) n).1
  rw [hscale, hscale, abs_div, abs_div]
  exact div_le_div_of_nonneg_right hnearest (abs_nonneg _)

end Double

/-- A decimal number with at most six places in normal form. -/
structure NormalDecimal where
  negative : Bool
  whole : List Char
  fraction : List Char
  isDigit_whole : ∀ c ∈ whole, c.isDigit = true
  isDigit_fraction : ∀ c ∈ fraction, c.isDigit = true
  whole_ne_nil : whole ≠ []
  /-- No zero stands before another digit. -/
  whole_eq_zero : whole.head? = some '0' → whole = ['0']
  length_fraction_le : fraction.length ≤ 6
  getLast?_fraction : fraction.getLast? ≠ some '0'
  /-- Zero has no sign. -/
  fraction_ne_nil : negative = true → whole = ['0'] → fraction ≠ []

namespace NormalDecimal

/-- There is a point only if digits follow it. -/
def chars (d : NormalDecimal) : List Char :=
  (if d.negative then ['-'] else []) ++ d.whole ++
    if d.fraction = [] then [] else '.' :: d.fraction

def value (d : NormalDecimal) : ℚ :=
  (if d.negative then -1 else 1) * Nat.ofDigitChars 10 (d.whole ++ d.fraction) 0 /
    10 ^ d.fraction.length

end NormalDecimal

section Digits

theorem head?_toDigits_ne {n : Nat} (hn : n ≠ 0) : (Nat.toDigits 10 n).head? ≠ some '0' := by
  induction n using Nat.strong_induction_on with
  | _ n ih =>
      by_cases hlt : n < 10
      · rw [Nat.toDigits_of_lt_base hlt]
        have hpos := Nat.pos_of_ne_zero hn
        interval_cases n <;> decide
      · rw [Nat.toDigits_of_base_le (by decide) (by omega),
          List.head?_append_of_ne_nil _ Nat.toDigits_ne_nil]
        exact ih (n / 10) (by omega) (by omega)

end Digits

section Fraction

variable {n : Nat}

def sixDigits (n : Nat) : List Char :=
  List.replicate (6 - (Nat.toDigits 10 n).length) '0' ++ Nat.toDigits 10 n

theorem length_sixDigits (hn : n < 1000000) : (sixDigits n).length = 6 := by
  have hlength := (Nat.length_toDigits_le_iff (b := 10) (k := 6) (by decide) (by decide)).mpr hn
  rw [sixDigits, List.length_append, List.length_replicate]
  omega

theorem ofDigitChars_sixDigits (n : Nat) : Nat.ofDigitChars 10 (sixDigits n) 0 = n := by
  rw [sixDigits, Nat.ofDigitChars_append, Nat.ofDigitChars_replicate_zero, Nat.mul_zero,
    Nat.ofDigitChars_ten_toDigits]

theorem fractionDigits_eq (n : Nat) : fractionDigits n = (sixDigits n).rdropWhile (· = '0') :=
  rfl

/-- Zeros are all that the digits lose. -/
theorem exists_sixDigits_eq (n : Nat) :
    ∃ k, sixDigits n = fractionDigits n ++ List.replicate k '0' := by
  have hzeros : ∀ c ∈ (sixDigits n).rtakeWhile (· = '0'), c = '0' := by
    intro c hc
    simpa using List.mem_rtakeWhile_imp hc
  refine ⟨((sixDigits n).rtakeWhile (· = '0')).length, ?_⟩
  rw [fractionDigits_eq, ← List.eq_replicate_of_mem hzeros, List.rdropWhile_append_rtakeWhile]

theorem length_fractionDigits_le (hn : n < 1000000) : (fractionDigits n).length ≤ 6 := by
  rw [← length_sixDigits hn]
  exact (List.rdropWhile_prefix _ (sixDigits n)).length_le

theorem getLast?_fractionDigits (n : Nat) : (fractionDigits n).getLast? ≠ some '0' := by
  by_cases hnil : fractionDigits n = []
  · simp [hnil]
  · rw [List.getLast?_eq_some_getLast hnil]
    have hlast := List.rdropWhile_last_not (· = '0') (sixDigits n) hnil
    simpa [fractionDigits_eq] using hlast

theorem fractionDigits_eq_nil (h : fractionDigits n = []) : n = 0 := by
  obtain ⟨k, hk⟩ := exists_sixDigits_eq n
  rw [← ofDigitChars_sixDigits n, hk, h, List.nil_append, Nat.ofDigitChars_replicate_zero,
    Nat.mul_zero]

end Fraction

namespace NormalDecimal

def ofMillionths (n : Int) : NormalDecimal where
  negative := decide (n < 0)
  whole := Nat.toDigits 10 (n.natAbs / 1000000)
  fraction := fractionDigits (n.natAbs % 1000000)
  isDigit_whole _ hc := Nat.isDigit_of_mem_toDigits (by decide) (by decide) hc
  isDigit_fraction _ := isDigit_of_mem_fractionDigits
  whole_ne_nil := Nat.toDigits_ne_nil
  whole_eq_zero h := by
    have hzero : n.natAbs / 1000000 = 0 := by
      by_contra hne
      exact head?_toDigits_ne hne h
    rw [hzero, Nat.toDigits_zero]
  length_fraction_le := length_fractionDigits_le (Nat.mod_lt _ (by decide))
  getLast?_fraction := getLast?_fractionDigits _
  fraction_ne_nil hnegative hwhole hfraction := by
    have hzero : n.natAbs / 1000000 = 0 := by
      rw [← Nat.ofDigitChars_ten_toDigits (n := n.natAbs / 1000000), hwhole]
      rfl
    have hremainder := fractionDigits_eq_nil hfraction
    have hneg := of_decide_eq_true hnegative
    omega

theorem chars_ofMillionths (n : Int) : (ofMillionths n).chars = (millionthsText n).toList := by
  rw [chars, millionthsText, String.toList_ofList]
  by_cases hfraction : fractionDigits (n.natAbs % 1000000) = []
  · simp [ofMillionths, hfraction]
  · simp [ofMillionths, hfraction]

theorem ofDigitChars_ofMillionths (n : Int) :
    Nat.ofDigitChars 10 ((ofMillionths n).whole ++ (ofMillionths n).fraction) 0 * 10 ^ 6 =
      n.natAbs * 10 ^ (ofMillionths n).fraction.length := by
  obtain ⟨k, hk⟩ := exists_sixDigits_eq (n.natAbs % 1000000)
  have hlength := length_sixDigits (Nat.mod_lt n.natAbs (show 0 < 1000000 by decide))
  have hdigits : Nat.ofDigitChars 10
      (Nat.toDigits 10 (n.natAbs / 1000000) ++ sixDigits (n.natAbs % 1000000)) 0 = n.natAbs := by
    rw [Nat.ofDigitChars_append, Nat.ofDigitChars_ten_toDigits,
      Nat.ofDigitChars_eq_ofDigitChars_zero, hlength, ofDigitChars_sixDigits]
    exact Nat.div_add_mod n.natAbs 1000000
  rw [hk, ← List.append_assoc, Nat.ofDigitChars_append, Nat.ofDigitChars_replicate_zero] at hdigits
  rw [hk, List.length_append, List.length_replicate] at hlength
  conv_rhs => rw [← hdigits]
  rw [← hlength]
  simp only [ofMillionths]
  ring

theorem value_ofMillionths (n : Int) : (ofMillionths n).value = n / 1000000 := by
  have hsign : (if (ofMillionths n).negative then -1 else 1) * (n.natAbs : ℚ) = n := by
    rw [Nat.cast_natAbs, Int.cast_abs]
    by_cases hn : n < 0
    · have hnegative : (ofMillionths n).negative = true := decide_eq_true hn
      rw [hnegative, if_pos rfl, abs_of_neg (by exact_mod_cast hn), neg_one_mul, neg_neg]
    · have hnegative : (ofMillionths n).negative = false := decide_eq_false hn
      rw [hnegative, if_neg Bool.false_ne_true, one_mul,
        abs_of_nonneg (by exact_mod_cast not_lt.mp hn)]
  have hdigits : (Nat.ofDigitChars 10 ((ofMillionths n).whole ++ (ofMillionths n).fraction) 0 : ℚ) *
      10 ^ 6 = n.natAbs * 10 ^ (ofMillionths n).fraction.length := by
    exact_mod_cast ofDigitChars_ofMillionths n
  have hmillion : (10 : ℚ) ^ 6 = 1000000 := by norm_num
  rw [value, ← hmillion, div_eq_div_iff (by positivity) (by positivity), mul_assoc, hdigits,
    ← mul_assoc, hsign]

end NormalDecimal

namespace Double

/-- A finite double is displayed in normal form, and no number with six places is nearer to it
than the one that is displayed. -/
theorem shown_nearest (x : Float) (hx : x.isFinite = true) :
    ∃ d : NormalDecimal, (shown x).toList = d.chars ∧
      ∀ n : ℤ, |d.value - rational x| ≤ |n / 1000000 - rational x| := by
  have hnan : Scalar.isNotANumber x = false := isNaN_eq_false_of_isFinite hx
  have hfinite : Scalar.isFinite x = true := hx
  refine ⟨.ofMillionths (Scalar.millionths x), ?_, fun n => ?_⟩
  · rw [NormalDecimal.chars_ofMillionths, shown, hnan, if_neg Bool.false_ne_true, if_pos hfinite]
  · rw [NormalDecimal.value_ofMillionths]
    exact millionths_nearest hx n

/-- A negative number of less than half a millionth has no sign. -/
theorem shown_tiny : (-4e-7 : Float).isFinite = true ∧ shown (-4e-7 : Float) = "0" ∧
    ∃ d : NormalDecimal, (shown (-4e-7 : Float)).toList = d.chars ∧
      ∀ n : ℤ, |d.value - rational (-4e-7)| ≤ |n / 1000000 - rational (-4e-7)| := by
  have hfinite : (-4e-7 : Float).isFinite = true := by decide +kernel
  have hzero : shown (-4e-7 : Float) = "0" := by decide +kernel
  exact ⟨hfinite, hzero, shown_nearest (-4e-7) hfinite⟩

end Double

end EquationTutor
