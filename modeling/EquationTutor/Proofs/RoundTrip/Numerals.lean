import EquationTutor.Proofs.Double.Integers
import EquationTutor.Proofs.Polynomial.Captures

namespace EquationTutor

open PolynomialText

namespace PolynomialText

theorem isDigit_of_mem_nil : ∀ c ∈ ([] : List Char), c.isDigit = true :=
  fun _ hc => absurd hc List.not_mem_nil

def numeral (m : Nat) : Unsigned where
  whole := Nat.toDigits 10 m
  fraction := []
  isDigit_whole := fun _ hc => Nat.isDigit_of_mem_toDigits (by decide) (by decide) hc
  isDigit_fraction := isDigit_of_mem_nil
  ne_nil := Or.inl Nat.toDigits_ne_nil

theorem chars_numeral (m : Nat) : (numeral m).chars = Nat.toDigits 10 m :=
  rfl

theorem natOfDigits_toDigits (m : Nat) : Literal.natOfDigits (Nat.toDigits 10 m) = m := by
  rw [Literal.natOfDigits, ← Nat.ofDigitChars_eq_foldl, Nat.ofDigitChars_ten_toDigits]

/-- The digits of a number of at most 53 bits are read as that number. -/
theorem value_numeral {m : Nat} (hm : m < 2 ^ 53) : (numeral m).value = Float.ofNat m := by
  have hlength : (Nat.toDigits 10 m).length ≤ 16 :=
    (Nat.length_toDigits_le_iff (by decide) (by decide)).mpr (by omega)
  change Double.ofDecimal (Literal.natOfDigits (Nat.toDigits 10 m ++ [])) (0 - 0) = _
  rw [List.append_nil, natOfDigits_toDigits, Double.ofDecimal]
  by_cases hzero : m = 0
  · subst hzero
    rfl
  · simp only [if_neg hzero]
    -- neither too large, nor too small, nor with digits behind the point
    rw [if_neg (by omega), if_neg (by omega), if_neg (by decide)]
    rfl

/-- An integer times a power of the variable. The term has no sign if it opens a sum with a
positive number, and a unit is left out before the variable. -/
def Term.ofInt (opens : Bool) (n : Int) (q : Power) : Term where
  sign := if n < 0 then some .minus else if opens then none else some .plus
  factor := if q ≠ .constant ∧ n.natAbs = 1 then none else some (numeral n.natAbs)
  power := q
  isSome_factor := by
    rintro rfl
    simp

namespace Term

variable (opens : Bool) (n : Int) (q : Power)

theorem isSome_sign_ofInt : (ofInt false n q).sign.isSome = true := by
  rw [ofInt]
  split <;> rfl

@[simp] theorem power_ofInt : (ofInt opens n q).power = q :=
  rfl

theorem factor_ofInt : (ofInt opens n q).factor =
    if q ≠ .constant ∧ n.natAbs = 1 then none else some (numeral n.natAbs) :=
  rfl

theorem isSome_factor_ofInt : (ofInt opens n .constant).factor.isSome = true :=
  (ofInt opens n .constant).isSome_factor rfl

theorem mark_ofInt : (ofInt opens n q).mark =
    if n < 0 then ['-'] else if opens then [] else ['+'] := by
  rw [mark, ofInt]
  cases opens <;> by_cases h : n < 0 <;> simp [h, Sign.char]

theorem digits_ofInt : (ofInt opens n q).digits =
    if q ≠ .constant ∧ n.natAbs = 1 then [] else Nat.toDigits 10 n.natAbs := by
  rw [digits, factor_ofInt]
  split
  · rfl
  · exact chars_numeral n.natAbs

theorem coefficient_ofInt (hn : n.natAbs < 2 ^ 53) :
    (ofInt opens n q).coefficient = Float.ofInt n := by
  have hsize : (ofInt opens n q).factor.elim (Float.ofScientific 1 false 0) Unsigned.value =
      Float.ofNat n.natAbs := by
    rw [factor_ofInt]
    split
    · rename_i h
      rw [h.2]
      rfl
    · exact value_numeral hn
  have hcoefficient : (ofInt opens n q).coefficient =
      if (ofInt opens n q).sign = some .minus then -Float.ofNat n.natAbs
      else Float.ofNat n.natAbs := by
    rw [← hsize]
    rfl
  rw [hcoefficient]
  cases n with
  | ofNat m =>
      rw [if_neg (by cases opens <;> simp [ofInt])]
      rfl
  | negSucc m =>
      rw [if_pos (by simp [ofInt, Int.negSucc_lt_zero])]
      rfl

end Term

end PolynomialText

namespace Double

/-- The printed form of an integer is that of a constant which opens a sum. -/
theorem IsInteger.toList_shown {x : Float} {n : Int} (hx : IsInteger x n) :
    (shown x).toList = (Term.ofInt true n .constant).mark ++
      (Term.ofInt true n .constant).digits := by
  have hnan : Scalar.isNotANumber x = false := hx.isNaN_eq_false
  have hfinite : Scalar.isFinite x = true := hx.isFinite_eq_true
  have hwhole : (n * 1000000).natAbs = n.natAbs * 1000000 := Int.natAbs_mul n 1000000
  have hfraction : fractionDigits 0 = [] := by decide
  have hsign : n * 1000000 < 0 ↔ n < 0 := by omega
  simp only [shown, hnan, hfinite, hx.millionths_eq, millionthsText, hwhole, hfraction, hsign,
    Nat.mul_mod_left, Nat.mul_div_cancel _ (show 0 < 1000000 by decide), Term.mark_ofInt,
    Term.digits_ofInt]
  simp

end Double

end EquationTutor
