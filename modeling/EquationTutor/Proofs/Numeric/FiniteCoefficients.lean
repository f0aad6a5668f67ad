import EquationTutor.Proofs.CommandLine.Parameters
import EquationTutor.Proofs.Double.Decimals

namespace EquationTutor

open Double PolynomialText Reading

namespace Literal

/-- The magnitude of a decimal literal is not rounded to infinity. The words for infinity and for
what is not a number are never in the range. -/
def InRange : Literal → Prop
  | decimal _ m e => (m * 10 ^ e : ℚ) < overflowBound
  | infinity _ => False
  | notANumber => False

/-- The magnitude of a decimal literal is rounded to zero. -/
def Vanishes : Literal → Prop
  | decimal _ m e => (m * 10 ^ e : ℚ) ≤ underflowBound
  | infinity _ => False
  | notANumber => False

theorem exists_roundsTo (negative : Bool) (m : Nat) (e : Int) :
    ∃ q : ℚ, |q| = m * 10 ^ e ∧ RoundsTo (decimal negative m e).value q := by
  have habs : |(m * 10 ^ e : ℚ)| = m * 10 ^ e := abs_of_nonneg (by positivity)
  have hvalue := roundsTo_ofDecimal m e
  cases negative with
  | false => exact ⟨m * 10 ^ e, habs, hvalue⟩
  | true => exact ⟨-(m * 10 ^ e), (abs_neg _).trans habs, hvalue.neg⟩

variable (l : Literal)

theorem isFinite_value_iff : (l.value : Float).isFinite = true ↔ l.InRange := by
  cases l with
  | decimal negative m e =>
      obtain ⟨q, hq, hvalue⟩ := exists_roundsTo negative m e
      rw [hvalue.isFinite_iff, hq, InRange]
  | infinity negative =>
      refine iff_of_false ?_ not_false
      revert negative
      decide +kernel
  | notANumber => exact iff_of_false (by decide +kernel) not_false

theorem value_beq_zero_iff : ((l.value : Float) == 0) = true ↔ l.Vanishes := by
  cases l with
  | decimal negative m e =>
      obtain ⟨q, hq, hvalue⟩ := exists_roundsTo negative m e
      rw [hvalue.beq_zero_iff, hq, Vanishes]
  | infinity negative =>
      refine iff_of_false ?_ not_false
      revert negative
      decide +kernel
  | notANumber => exact iff_of_false (by decide +kernel) not_false

theorem isNaN_value_eq_false_iff : (l.value : Float).isNaN = false ↔ l ≠ .notANumber := by
  cases l with
  | decimal negative m e =>
      obtain ⟨q, -, hvalue⟩ := exists_roundsTo negative m e
      exact iff_of_true hvalue.isNaN_eq_false (by simp)
  | infinity negative =>
      refine iff_of_true ?_ (by simp)
      revert negative
      decide +kernel
  | notANumber => exact iff_of_false (by decide +kernel) (by simp)

end Literal

namespace CoefficientText

variable {cs above below : List Char} {l : Literal}

section Plain

/-- The literal of a text without a fraction bar. One plus sign is dropped, and the literal behind
it may have a sign of its own. -/
def literal? : List Char → Option Literal
  | '+' :: cs => Literal.ofChars? cs
  | cs => Literal.ofChars? cs

/-- The texts that stand for a unit. -/
def units : List (List Char) :=
  [[], ['+'], ['-']]

def Readable (cs : List Char) : Prop :=
  cs ∈ units ∨ (literal? cs).isSome

instance (cs : List Char) : Decidable (Readable cs) :=
  inferInstanceAs (Decidable (cs ∈ units ∨ (literal? cs).isSome))

def InRange (cs : List Char) : Prop :=
  ∀ l, literal? cs = some l → l.InRange

theorem coefficientOfChars_of_notMem (h : cs ∉ units) :
    (coefficientOfChars cs : Float) = ((literal? cs).map Literal.value).getD 0 := by
  have hread (ds : List Char) :
      (literalOrZero ds : Float) = ((Literal.ofChars? ds).map Literal.value).getD 0 := by
    rw [literalOrZero]
    cases Literal.ofChars? ds <;> rfl
  fun_cases coefficientOfChars (α := Float) cs with
  | case1 => exact absurd (by decide) h
  | case2 => exact absurd (by decide) h
  | case3 => exact absurd (by decide) h
  | case4 cs _ => exact hread cs
  | case5 cs _ _ _ hplus => rw [literal?.eq_2 cs hplus, hread]

theorem isFinite_coefficientOfChars_iff :
    (coefficientOfChars cs : Float).isFinite = true ↔ InRange cs := by
  rw [InRange]
  by_cases hunit : cs ∈ units
  · have hunits : ∀ u ∈ units,
        literal? u = none ∧ (coefficientOfChars u : Float).isFinite = true := by
      decide +kernel
    obtain ⟨hnone, hfinite⟩ := hunits cs hunit
    rw [hnone]
    exact iff_of_true hfinite nofun
  · rw [coefficientOfChars_of_notMem hunit]
    cases literal? cs with
    | none => exact iff_of_true rfl nofun
    | some l =>
        simp only [Option.some.injEq, forall_eq']
        exact l.isFinite_value_iff

theorem coefficientOfChars_of_not_readable (h : ¬ Readable cs) :
    (coefficientOfChars cs : Float) = 0 := by
  obtain ⟨hunit, hnone⟩ := not_or.mp h
  rw [coefficientOfChars_of_notMem hunit, Option.not_isSome_iff_eq_none.mp hnone]
  rfl

end Plain

section Quotient

/-- A literal below the bar that is rounded to zero makes zero of everything. Otherwise the
quotient of the two doubles has to be in the range. -/
def QuotientInRange (above below : List Char) : Prop :=
  ∀ l, Literal.ofChars? below = some l →
    l.Vanishes ∨ InRange above ∧ l ≠ .notANumber ∧
      (l.InRange → |rational (coefficientOfChars above) / rational l.value| < overflowBound)

variable {s : String} (hbar : '/' ∉ above) (hs : solid s.toList = above ++ '/' :: below)
include hbar hs

theorem parseCoefficient_quotient : (parseCoefficient s : Float) =
    if (literalOrZero below : Float) == 0 then 0
    else coefficientOfChars above / literalOrZero below := by
  have hread := parseCoefficient_over (α := Float) hbar hs
  rwa [String.ofList_toList] at hread

theorem parseCoefficient_of_vanishes (h : ∀ l, Literal.ofChars? below = some l → l.Vanishes) :
    (parseCoefficient s : Float) = 0 := by
  rw [parseCoefficient_quotient hbar hs, literalOrZero]
  cases hl : Literal.ofChars? below with
  | none => exact if_pos (by decide +kernel)
  | some l => exact if_pos (l.value_beq_zero_iff.mpr (h l hl))

theorem parseCoefficient_of_not_vanishes (hl : Literal.ofChars? below = some l)
    (h : ¬ l.Vanishes) : (parseCoefficient s : Float) = coefficientOfChars above / l.value := by
  rw [← l.value_beq_zero_iff] at h
  rw [parseCoefficient_quotient hbar hs, literalOrZero, hl]
  exact if_neg h

theorem isFinite_quotient_iff :
    (parseCoefficient s : Float).isFinite = true ↔ QuotientInRange above below := by
  by_cases hzero : ∀ l, Literal.ofChars? below = some l → l.Vanishes
  · rw [parseCoefficient_of_vanishes hbar hs hzero]
    exact iff_of_true rfl fun l hl => .inl (hzero l hl)
  · push Not at hzero
    obtain ⟨l, hl, hnonzero⟩ := hzero
    have hvalue : ((l.value : Float) == 0) = false := by
      rwa [← l.value_beq_zero_iff, Bool.not_eq_true] at hnonzero
    rw [parseCoefficient_of_not_vanishes hbar hs hl hnonzero, isFinite_div_iff hvalue,
      isFinite_coefficientOfChars_iff, l.isNaN_value_eq_false_iff, l.isFinite_value_iff,
      QuotientInRange, hl]
    simp [hnonzero]

theorem quotient_beq_zero (h : ¬ (Readable above ∧ (Literal.ofChars? below).isSome))
    (hfinite : (parseCoefficient s : Float).isFinite = true) :
    ((parseCoefficient s : Float) == 0) = true := by
  by_cases hzero : ∀ l, Literal.ofChars? below = some l → l.Vanishes
  · rw [parseCoefficient_of_vanishes hbar hs hzero]
    rfl
  · push Not at hzero
    obtain ⟨l, hl, hnonzero⟩ := hzero
    have habove : (coefficientOfChars above : Float) = 0 := by
      refine coefficientOfChars_of_not_readable fun hreadable => h ⟨hreadable, ?_⟩
      rw [hl]
      rfl
    rw [parseCoefficient_of_not_vanishes hbar hs hl hnonzero, habove] at hfinite ⊢
    exact zero_div_beq_zero hfinite

end Quotient

/-- Texts without blanks whose numbers are finite. -/
inductive Fits : List Char → Prop
  | plain {cs : List Char} (hbar : '/' ∉ cs) (h : InRange cs) : Fits cs
  | quotient {above below : List Char} (hbar : '/' ∉ above) (h : QuotientInRange above below) :
      Fits (above ++ '/' :: below)

/-- A unit or a literal, or one of them over a literal. -/
inductive WellFormed : List Char → Prop
  | plain {cs : List Char} (hbar : '/' ∉ cs) (h : Readable cs) : WellFormed cs
  | quotient {above below : List Char} (hbar : '/' ∉ above) (h : Readable above)
      (hbelow : (Literal.ofChars? below).isSome) : WellFormed (above ++ '/' :: below)

theorem WellFormed.readable (h : WellFormed cs) (hbar : '/' ∉ cs) : Readable cs := by
  cases h with
  | plain _ h => exact h
  | quotient _ _ _ => exact absurd (by simp) hbar

variable {s : String}

theorem parseCoefficient_plain (hbar : '/' ∉ cs) (hs : solid s.toList = cs) :
    (parseCoefficient s : Float) = coefficientOfChars cs := by
  have hread := parseCoefficient_of_solid (α := Float) hbar hs
  rwa [String.ofList_toList] at hread

theorem bar_cases (cs : List Char) :
    '/' ∉ cs ∨ ∃ above below, cs = above ++ '/' :: below ∧ '/' ∉ above := by
  by_cases hbar : '/' ∈ cs
  · exact .inr (List.eq_append_cons_of_mem hbar)
  · exact .inl hbar

theorem isFinite_iff_fits :
    (parseCoefficient s : Float).isFinite = true ↔ Fits (solid s.toList) := by
  constructor
  · intro h
    rcases bar_cases (solid s.toList) with hbar | ⟨above, below, hs, habove⟩
    · rw [parseCoefficient_plain hbar rfl, isFinite_coefficientOfChars_iff] at h
      exact .plain hbar h
    · rw [hs]
      exact .quotient habove ((isFinite_quotient_iff habove hs).mp h)
  · intro h
    generalize hs : solid s.toList = cs at h
    cases h with
    | plain hbar h =>
        rw [parseCoefficient_plain hbar hs]
        exact isFinite_coefficientOfChars_iff.mpr h
    | quotient hbar h => exact (isFinite_quotient_iff hbar hs).mpr h

theorem beq_zero_of_not_wellFormed (h : ¬ WellFormed (solid s.toList))
    (hfinite : (parseCoefficient s : Float).isFinite = true) :
    ((parseCoefficient s : Float) == 0) = true := by
  rcases bar_cases (solid s.toList) with hbar | ⟨above, below, hs, habove⟩
  · rw [parseCoefficient_plain hbar rfl,
      coefficientOfChars_of_not_readable fun hread => h (.plain hbar hread)]
    rfl
  · refine quotient_beq_zero habove hs ?_ hfinite
    rintro ⟨hread, hbelow⟩
    apply h
    rw [hs]
    exact .quotient habove hread hbelow

variable {α : Type} [Scalar α]

theorem parseCoefficient_insert {blanks : String} (h : AllBlank blanks.toList)
    (before after : String) :
    parseCoefficient (before ++ blanks ++ after) = (parseCoefficient (before ++ after) : α) := by
  have hsolid : solid (before ++ blanks ++ after).toList = solid (before ++ after).toList := by
    simp [solid_of_allBlank h]
  rw [solid, solid] at hsolid
  unfold parseCoefficient
  rw [hsolid]

/-- Coefficients are finite numbers as long as their literals and quotients are in the range.
Malformed ones among them count as zero, and blanks never count. -/
theorem parseCoefficient_isFinite_iff (s : String) :
    ((parseCoefficient s : Float).isFinite = true ↔ Fits (solid s.toList)) ∧
    (Fits (solid s.toList) → ¬ WellFormed (solid s.toList) →
      ((parseCoefficient s : Float) == 0) = true) ∧
    ∀ before blanks after, s = before ++ blanks ++ after → AllBlank blanks.toList →
      (parseCoefficient s : Float) = parseCoefficient (before ++ after) := by
  refine ⟨isFinite_iff_fits, ?_, ?_⟩
  · intro hfits hmalformed
    exact beq_zero_of_not_wellFormed hmalformed (isFinite_iff_fits.mpr hfits)
  · rintro before blanks after rfl hblanks
    exact parseCoefficient_insert hblanks before after

theorem parseCoefficient_twoPoints :
    (parseCoefficient "2..\t3" : Float).isFinite = true ∧
    ((parseCoefficient "2..\t3" : Float) == 0) = true ∧
    (parseCoefficient "2..\t3" : Float) = parseCoefficient "2..3" := by
  have hsolid : solid "2..\t3".toList = "2..3".toList := by decide
  have hbar : '/' ∉ "2..3".toList := by decide
  have hnone : literal? "2..3".toList = none := by decide
  obtain ⟨hfinite, hzero, hblanks⟩ := parseCoefficient_isFinite_iff "2..\t3"
  rw [hsolid] at hfinite hzero
  have hfits : Fits "2..3".toList := by
    refine .plain hbar fun l hl => ?_
    rw [hnone] at hl
    cases hl
  have hmalformed : ¬ WellFormed "2..3".toList := fun hwell =>
    absurd (hwell.readable hbar) (by decide)
  have hblank : AllBlank "\t".toList := List.all_eq_true.mp (by decide)
  exact ⟨hfinite.mpr hfits, hzero hfits hmalformed, hblanks "2.." "\t" "3" (by decide) hblank⟩

/-- The words for infinity and for what is not a number are coefficients, and both literals and
quotients overflow. -/
theorem not_isFinite_words_or_overflow :
    (parseCoefficient "inf" : Float).isFinite = false ∧
    (parseCoefficient "1e400" : Float).isFinite = false ∧
    (parseCoefficient "1e308/0.1" : Float).isFinite = false ∧
    (parseCoefficient "1/nan" : Float).isFinite = false := by
  decide +kernel

end CoefficientText

end EquationTutor
