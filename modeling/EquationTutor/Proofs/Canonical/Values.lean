import EquationTutor.Proofs.Canonical.Coefficients

namespace EquationTutor

open PolynomialText Reading Pattern

namespace PolynomialText

variable {α : Type} [Scalar α]

/-- The number of a numeral: its digits, and a power of ten for each behind the point. -/
def numeralValue (cs : List Char) : α :=
  Scalar.ofDecimal (Literal.natOfDigits (cs.filter (· ≠ '.')))
    (0 - ((cs.dropWhile (· ≠ '.')).drop 1).length)

/-- All digits are digits of ASCII. -/
def PlainDigits (cs : List Char) : Prop :=
  ∀ c ∈ cs, Text.isDigit c = true → c.isDigit = true

instance (cs : List Char) : Decidable (PlainDigits cs) :=
  decidable_of_iff ((cs.all fun c => !Text.isDigit c || c.isDigit) = true)
    (by simp [PlainDigits, or_iff_not_imp_left])

theorem Unsigned.parts_chars (n : Unsigned) : n.chars.filter (· ≠ '.') = n.whole ++ n.fraction ∧
    (n.chars.dropWhile (· ≠ '.')).drop 1 = n.fraction := by
  have hdigits {ds : List Char} (hds : ∀ c ∈ ds, c.isDigit = true) : ∀ c ∈ ds, c ≠ '.' := by
    rintro c hc rfl
    exact absurd (hds _ hc) (by decide)
  have hwhole := hdigits n.isDigit_whole
  have hfraction := hdigits n.isDigit_fraction
  have hkeep {ds : List Char} (hds : ∀ c ∈ ds, c ≠ '.') : ds.filter (· ≠ '.') = ds := by
    simpa [List.filter_eq_self] using hds
  have hdrop : n.whole.dropWhile (· ≠ '.') = [] := by
    simpa [List.dropWhile_eq_nil_iff] using hwhole
  rcases n.chars_eq with ⟨hnil, hchars⟩ | ⟨-, hchars⟩
  · rw [hchars, hkeep hwhole, hdrop, hnil, List.append_nil]
    exact ⟨rfl, rfl⟩
  · have hpoint : (n.whole ++ '.' :: n.fraction).dropWhile (· ≠ '.') = '.' :: n.fraction := by
      rw [List.dropWhile_append_of_pos (by simpa using hwhole)]
      rfl
    rw [hchars, hpoint, List.filter_append, hkeep hwhole, List.filter_cons_of_neg (by simp),
      hkeep hfraction]
    exact ⟨rfl, rfl⟩

theorem Unsigned.value_eq_numeralValue (n : Unsigned) : (n.value : α) = numeralValue n.chars := by
  obtain ⟨hdigits, hfraction⟩ := n.parts_chars
  rw [value, numeralValue, hdigits, hfraction]

theorem exists_unsigned_of_numeral {cs : List Char} (h : Numeral cs) (hplain : PlainDigits cs) :
    ∃ n : Unsigned, n.chars = cs := by
  have hplainDigits {ds : List Char} (hds : Digits ds) (hmem : ds ⊆ cs) :
      ∀ c ∈ ds, c.isDigit = true :=
    fun c hc => hplain c (hmem hc) (hds.2 c hc)
  have hpointed {whole ds : List Char} (hcs : cs = whole ++ '.' :: ds)
      (hwhole : ∀ c ∈ whole, c.isDigit = true) (hds : Digits ds) :
      ∃ n : Unsigned, n.chars = cs := by
    obtain ⟨d, ds, rfl⟩ := List.exists_cons_of_ne_nil hds.1
    exact ⟨⟨whole, d :: ds, hwhole, hplainDigits hds (by simp [hcs]), Or.inr hds.1⟩, hcs.symm⟩
  rcases h with ⟨whole, fraction, hcs, hwhole, rfl | ⟨ds, rfl, hds⟩⟩ | ⟨ds, hcs, hds⟩
  · have hdigits := hplainDigits hwhole (by simp [hcs])
    exact ⟨⟨whole, [], hdigits, by simp, Or.inl hwhole.1⟩, by simp [Unsigned.chars, hcs]⟩
  · exact hpointed hcs (hplainDigits hwhole (by simp [hcs])) hds
  · exact hpointed (hcs.trans (List.nil_append _).symm) (by simp) hds

theorem literalOrZero_digits {ds : List Char} (h : Digits ds) (hplain : PlainDigits ds) :
    literalOrZero ds = (numeralValue ds : α) := by
  obtain ⟨n, rfl⟩ := exists_unsigned_of_numeral (numeral_of_digits h) hplain
  rw [literalOrZero_chars, n.value_eq_numeralValue]

namespace Coefficient

variable (c : Coefficient)

/-- A number with the sign of the coefficient. -/
def signed (x : α) : α :=
  if c.sign = some .minus then -x else x

/-- The number that is written. -/
def value : α :=
  match c.size with
  | none => c.signed 1
  | some r =>
    match r.below with
    | none => c.signed (numeralValue r.above)
    | some ds =>
      if (numeralValue ds : α) == 0 then 0
      else c.signed (numeralValue r.above) / numeralValue ds

theorem coefficientOfChars_mark (n : Option Unsigned) :
    coefficientOfChars (c.mark.flatten ++ n.elim [] Unsigned.chars) =
      (c.signed (n.elim 1 Unsigned.value) : α) := by
  have hmark : c.mark.flatten = c.sign.elim [] fun s => [s.char] := by
    rw [mark]
    cases c.sign <;> rfl
  rw [hmark]
  exact coefficientOfChars_lead ⟨c.sign, n, .linear, fun h => absurd h (by decide)⟩

theorem coefficientOfChars_numeral {cs : List Char} (h : Numeral cs) (hplain : PlainDigits cs) :
    coefficientOfChars (c.mark.flatten ++ cs) = (c.signed (numeralValue cs) : α) := by
  obtain ⟨n, rfl⟩ := exists_unsigned_of_numeral h hplain
  rw [← n.value_eq_numeralValue]
  exact c.coefficientOfChars_mark (some n)

theorem slash_notMem_mark : '/' ∉ c.mark.flatten := by
  rw [mark]
  rcases c.sign with _ | _ | _ <;> decide

theorem slash_notMem_numerator {cs : List Char} (h : Numeral cs) :
    '/' ∉ c.mark.flatten ++ cs := by
  intro hmem
  rcases List.mem_append.mp hmem with hmem | hmem
  · exact c.slash_notMem_mark hmem
  · exact absurd (mem_of_numeral h _ hmem) (by decide)

/-- A coefficient is read as the number that is written. -/
theorem parseCoefficient_text (hplain : PlainDigits c.tokens.flatten) :
    parseCoefficient c.text = (c.value : α) := by
  have hsolid := solid_of_not_blank c.tokens_tokens.not_blank
  rw [text]
  cases hsize : c.size with
  | none =>
      have htokens : c.tokens.flatten = c.mark.flatten ++ [] := by simp [tokens, body, hsize]
      rw [htokens] at hsolid ⊢
      rw [parseCoefficient_of_solid (by simpa using c.slash_notMem_mark) hsolid, value, hsize]
      exact c.coefficientOfChars_mark none
  | some r =>
      have habove : PlainDigits r.above := fun d hd =>
        hplain d (by simp [tokens, body, hsize, Ratio.chars, hd])
      have hslash := c.slash_notMem_numerator r.numeral_above
      have hnumerator := c.coefficientOfChars_numeral (α := α) r.numeral_above habove
      cases hbelow : r.below with
      | none =>
          have htokens : c.tokens.flatten = c.mark.flatten ++ r.above := by
            simp [tokens, body, hsize, Ratio.chars, hbelow]
          rw [htokens] at hsolid ⊢
          simp only [parseCoefficient_of_solid hslash hsolid, hnumerator, value, hsize, hbelow]
      | some ds =>
          have htokens : c.tokens.flatten = c.mark.flatten ++ r.above ++ '/' :: ds := by
            simp [tokens, body, hsize, Ratio.chars, hbelow]
          have hdenominator : literalOrZero ds = (numeralValue ds : α) :=
            literalOrZero_digits (r.digits_below ds hbelow) fun d hd =>
              hplain d (by simp [htokens, hd])
          rw [htokens] at hsolid ⊢
          simp only [parseCoefficient_over hslash hsolid, hnumerator, hdenominator, value, hsize,
            hbelow]

end Coefficient

end PolynomialText

end EquationTutor
