import EquationTutor.Proofs.Reading.Pieces
import EquationTutor.Proofs.Reading.Recognized

namespace EquationTutor.Reading

open Pattern

/-- A decimal with its sign, and blanks after both. -/
def SignedDecimal (cs : List Char) : Prop :=
  ∃ mark gap decimal gap', cs = mark :: (gap ++ decimal ++ gap') ∧
    (mark = '+' ∨ mark = '-') ∧ AllBlank gap ∧ Decimal decimal ∧ AllBlank gap'

/-- An `x` with at most a signed decimal between it and what follows. -/
def XThen (follows : List Char → Prop) (cs : List Char) : Prop :=
  ∃ before gap term rest, cs = before ++ 'x' :: (gap ++ term ++ rest) ∧ AllBlank gap ∧
    (term = [] ∨ SignedDecimal term) ∧ follows rest

def StartsWithOrder (cs : List Char) : Prop :=
  ∃ c rest, cs = c :: rest ∧ (c = '<' ∨ c = '>')

/-- An equality sign and the start of a number. -/
def StartsWithValue (cs : List Char) : Prop :=
  ∃ gap mark gap' point digit rest, cs = '=' :: (gap ++ mark ++ gap' ++ point ++ digit :: rest) ∧
    AllBlank gap ∧ (mark = [] ∨ mark = ['+'] ∨ mark = ['-']) ∧ AllBlank gap' ∧
    (point = [] ∨ point = ['.']) ∧ Text.isDigit digit = true

/-- An `x` and a `y` before an equality sign, and another `y` behind a separator. -/
def TwoEquations (cs : List Char) : Prop :=
  ∃ before s gap t separator u rest,
    cs = before ++ 'x' :: (s ++ 'y' :: (gap ++ '=' :: (t ++ separator :: (u ++ 'y' :: rest)))) ∧
    (∀ c ∈ s, c ≠ ',' ∧ c ≠ ';') ∧ AllBlank gap ∧ (∀ c ∈ t, c ≠ ',' ∧ c ≠ ';') ∧
    (separator = ',' ∨ separator = ';') ∧ ∀ c ∈ u, c ≠ ',' ∧ c ≠ ';'

/-- The words that ask for a linear kind. -/
def linearPhrases : List Pattern :=
  [phrase ["linear", "inequalit"],
   cat [word "system", blanks1, word "of", blanks1, optional (cat [word "linear", blanks1]),
     word "equations"],
   phrase ["linear", "equation"]]

def LooksLinear (cs : List Char) : Prop :=
  XThen StartsWithOrder cs ∨ XThen StartsWithValue cs ∨ TwoEquations cs ∨
    ∃ p ∈ linearPhrases, p.Within cs

def constantAfterX : Pattern :=
  optional (cat [sign, blanks, decimal, blanks])

theorem takes_constantAfterX {before taken rest : List Char} :
    constantAfterX.Takes before taken rest ↔ taken = [] ∨ SignedDecimal taken := by
  simp only [constantAfterX, cat, takes_optional, takes_seq, takes_sign, takes_blanks,
    takes_decimal]
  rw [or_comm]
  refine or_congr_right ⟨?_, ?_⟩
  · rintro ⟨mark, _, rfl, hmark, gap, _, rfl, hgap, decimal, gap', rfl, hdecimal, hgap'⟩
    rcases hmark with rfl | rfl
    · exact ⟨'+', gap, decimal, gap', by simp, Or.inl rfl, hgap, hdecimal, hgap'⟩
    · exact ⟨'-', gap, decimal, gap', by simp, Or.inr rfl, hgap, hdecimal, hgap'⟩
  · rintro ⟨mark, gap, decimal, gap', rfl, hmark, hgap, hdecimal, hgap'⟩
    refine ⟨[mark], _, rfl, by simpa using hmark, gap, decimal ++ gap', by simp, hgap, ?_⟩
    exact ⟨decimal, gap', rfl, hdecimal, hgap'⟩

theorem within_x_iff {p : Pattern} {follows : List Char → Prop}
    (hp : ∀ before rest, (∃ s t, rest = s ++ t ∧ p.Takes before s t) ↔ follows rest)
    {cs : List Char} :
    (seq (char 'x') (seq blanks (seq constantAfterX p))).Within cs ↔ XThen follows cs := by
  simp only [Within, takes_seq, takes_char, takes_blanks, takes_constantAfterX]
  constructor
  · rintro ⟨before, _, left, rfl, _, _, rfl, rfl, gap, _, rfl, hgap, term, s, rfl, hterm, hs⟩
    exact ⟨before, gap, term, s ++ left, by simp, hgap, hterm, (hp _ _).mp ⟨s, left, rfl, hs⟩⟩
  · rintro ⟨before, gap, term, rest, rfl, hgap, hterm, hfollows⟩
    obtain ⟨s, left, rfl, hs⟩ := (hp (before ++ ['x'] ++ gap ++ term) rest).mpr hfollows
    exact ⟨before, 'x' :: (gap ++ (term ++ s)), left, by simp, ['x'], _, rfl, rfl, gap, _,
      rfl, hgap, term, s, rfl, hterm, hs⟩

theorem takes_orderSign_iff (before rest : List Char) :
    (∃ s t, rest = s ++ t ∧ orderSign.Takes before s t) ↔ StartsWithOrder rest := by
  simp only [takes_orderSign]
  constructor
  · rintro ⟨_, t, rfl, rfl | rfl | rfl | rfl⟩
    · exact ⟨'<', '=' :: t, rfl, Or.inl rfl⟩
    · exact ⟨'>', '=' :: t, rfl, Or.inr rfl⟩
    · exact ⟨'<', t, rfl, Or.inl rfl⟩
    · exact ⟨'>', t, rfl, Or.inr rfl⟩
  · rintro ⟨c, t, rfl, rfl | rfl⟩
    · exact ⟨['<'], t, rfl, by simp⟩
    · exact ⟨['>'], t, rfl, by simp⟩

def equalsValue : Pattern :=
  cat [char '=', blanks, optional sign, blanks, optional (char '.'), one Text.isDigit]

theorem takes_equalsValue_iff (before rest : List Char) :
    (∃ s t, rest = s ++ t ∧ equalsValue.Takes before s t) ↔ StartsWithValue rest := by
  simp only [equalsValue, cat, takes_seq, takes_char, takes_blanks, takes_optional, takes_sign,
    takes_one]
  constructor
  · rintro ⟨_, t, rfl, _, _, rfl, rfl, gap, _, rfl, hgap, mark, _, rfl, hmark, gap', _, rfl,
      hgap', point, _, rfl, hpoint, digit, rfl, hdigit⟩
    refine ⟨gap, mark, gap', point, digit, t, by simp, hgap, ?_, hgap', hpoint.symm, hdigit⟩
    rcases hmark with (h | h) | h <;> simp [h]
  · rintro ⟨gap, mark, gap', point, digit, t, rfl, hgap, hmark, hgap', hpoint, hdigit⟩
    refine ⟨'=' :: (gap ++ (mark ++ (gap' ++ (point ++ [digit])))), t, by simp, ['='], _, rfl,
      rfl, gap, _, rfl, hgap, mark, _, rfl, ?_, gap', _, rfl, hgap', point, _, rfl,
      hpoint.symm, digit, rfl, hdigit⟩
    rcases hmark with h | h | h <;> simp [h]

theorem within_twoEquations_iff {cs : List Char} :
    (cat [char 'x', manyExcept [',', ';'], char 'y', blanks, char '=', manyExcept [',', ';'],
      anyOf [',', ';'], manyExcept [',', ';'], char 'y']).Within cs ↔ TwoEquations cs := by
  simp only [Within, cat, takes_seq, takes_char, takes_blanks, takes_anyOf, takes_manyExcept,
    List.mem_cons, List.not_mem_nil, or_false, not_or]
  constructor
  · rintro ⟨before, _, rest, rfl, _, _, rfl, rfl, s, _, rfl, hs, _, _, rfl, rfl, gap, _, rfl,
      hgap, _, _, rfl, rfl, t, _, rfl, ht, _, _, rfl, ⟨separator, hseparator, rfl⟩, u, _, rfl,
      hu, rfl⟩
    exact ⟨before, s, gap, t, separator, u, rest, by simp, hs, hgap, ht, hseparator, hu⟩
  · rintro ⟨before, s, gap, t, separator, u, rest, rfl, hs, hgap, ht, hseparator, hu⟩
    exact ⟨before, 'x' :: (s ++ ('y' :: (gap ++ ('=' :: (t ++ (separator :: (u ++ ['y']))))))),
      rest, by simp, ['x'], _, rfl, rfl, s, _, rfl, hs, ['y'], _, rfl, rfl, gap, _, rfl, hgap,
      ['='], _, rfl, rfl, t, _, rfl, ht, [separator], _, rfl, ⟨separator, hseparator, rfl⟩, u, _,
      rfl, hu, rfl⟩

theorem stated_pair_iff {kind : Kind} {p q : Pattern} (h : recognizers kind = [p, q])
    {cs : List Char} : Stated kind cs ↔ p.Within cs ∨ q.Within cs := by
  simp [Stated, h]

theorem stated_linearInequality_iff {cs : List Char} : Stated .linearInequality cs ↔
    XThen StartsWithOrder cs ∨ (phrase ["linear", "inequalit"]).Within cs := by
  rw [← within_x_iff takes_orderSign_iff]
  exact stated_pair_iff rfl

theorem stated_simpleLinear_iff {cs : List Char} : Stated .simpleLinear cs ↔
    XThen StartsWithValue cs ∨ (phrase ["linear", "equation"]).Within cs := by
  rw [← within_x_iff takes_equalsValue_iff]
  exact stated_pair_iff rfl

theorem stated_linearSystem_iff {cs : List Char} : Stated .linearSystem cs ↔
    TwoEquations cs ∨ (cat [word "system", blanks1, word "of", blanks1,
      optional (cat [word "linear", blanks1]), word "equations"]).Within cs := by
  rw [← within_twoEquations_iff]
  exact stated_pair_iff rfl

/-- A linear kind is stated if and only if the text looks linear. -/
theorem exists_stated_linear_iff {cs : List Char} :
    (∃ kind, kind.family = .linear ∧ Stated kind cs) ↔ LooksLinear cs := by
  have hfamily : (∃ kind, Kind.family kind = .linear ∧ Stated kind cs) ↔
      Stated .linearInequality cs ∨ Stated .linearSystem cs ∨ Stated .simpleLinear cs := by
    constructor
    · rintro ⟨kind, hkind, h⟩
      cases kind with
      | linearInequality => exact Or.inl h
      | linearSystem => exact Or.inr (Or.inl h)
      | simpleLinear => exact Or.inr (Or.inr h)
      | _ => cases hkind
    · rintro (h | h | h)
      · exact ⟨.linearInequality, rfl, h⟩
      · exact ⟨.linearSystem, rfl, h⟩
      · exact ⟨.simpleLinear, rfl, h⟩
  rw [hfamily, stated_linearInequality_iff, stated_linearSystem_iff, stated_simpleLinear_iff]
  simp only [LooksLinear, linearPhrases, List.mem_cons, List.not_mem_nil, or_false,
    exists_eq_or_imp, exists_eq_left]
  constructor
  · rintro ((h | h) | (h | h) | (h | h)) <;> simp only [h, true_or, or_true]
  · rintro (h | h | h | h | h | h) <;> simp only [h, true_or, or_true]

end EquationTutor.Reading
