import EquationTutor.Proofs.Pattern.Takes
import EquationTutor.Reading.Grammar

namespace EquationTutor

namespace Pattern

variable {before taken rest : List Char}

theorem takes_seq {p q : Pattern} : (seq p q).Takes before taken rest ↔
    ∃ s t, taken = s ++ t ∧ p.Takes before s (t ++ rest) ∧ q.Takes (before ++ s) t rest :=
  Iff.rfl

theorem takes_alt {p q : Pattern} : (alt p q).Takes before taken rest ↔
    p.Takes before taken rest ∨ q.Takes before taken rest :=
  Iff.rfl

/-- Some piece of the text that stands here can be taken. -/
def Begins (p : Pattern) (before rest : List Char) : Prop :=
  ∃ s left, rest = s ++ left ∧ p.Takes before s left

theorem begins_seq {p q : Pattern} : (seq p q).Begins before rest ↔
    ∃ s left, rest = s ++ left ∧ p.Takes before s left ∧ q.Begins (before ++ s) left := by
  constructor
  · rintro ⟨_, left, rfl, s, t, rfl, hs, ht⟩
    exact ⟨s, t ++ left, List.append_assoc .., hs, t, left, rfl, ht⟩
  · rintro ⟨s, _, rfl, hs, t, left, rfl, ht⟩
    exact ⟨s ++ t, left, (List.append_assoc ..).symm, s, t, rfl, hs, ht⟩

theorem begins_group {i : Nat} {p : Pattern} :
    (group i p).Begins before rest ↔ p.Begins before rest :=
  Iff.rfl

theorem within_iff_begins {p : Pattern} {cs : List Char} : p.Within cs ↔
    ∃ before rest, cs = before ++ rest ∧ p.Begins before rest := by
  constructor
  · rintro ⟨before, s, left, rfl, hs⟩
    exact ⟨before, s ++ left, List.append_assoc .., s, left, rfl, hs⟩
  · rintro ⟨before, _, rfl, s, left, rfl, hs⟩
    exact ⟨before, s, left, (List.append_assoc ..).symm, hs⟩

@[simp] theorem takes_char {c : Char} : (char c).Takes before taken rest ↔ taken = [c] := by
  simp [char, Takes]

@[simp] theorem takes_anyOf {cs : List Char} :
    (anyOf cs).Takes before taken rest ↔ ∃ c ∈ cs, taken = [c] := by
  simp [anyOf, Takes, and_comm]

@[simp] theorem takes_many {accepts : Char → Bool} :
    (many accepts).Takes before taken rest ↔ ∀ c ∈ taken, accepts c = true := by
  simp [many, Takes]

@[simp] theorem takes_oneOrMore {accepts : Char → Bool} :
    (oneOrMore accepts).Takes before taken rest ↔
      taken ≠ [] ∧ ∀ c ∈ taken, accepts c = true := by
  simp [oneOrMore, Takes, Nat.one_le_iff_ne_zero, and_comm]

@[simp] theorem takes_optional {p : Pattern} :
    (optional p).Takes before taken rest ↔ p.Takes before taken rest ∨ taken = [] :=
  Iff.rfl

@[simp] theorem takes_group {i : Nat} {p : Pattern} :
    (group i p).Takes before taken rest ↔ p.Takes before taken rest :=
  Iff.rfl

@[simp] theorem takes_one {accepts : Char → Bool} :
    (one accepts).Takes before taken rest ↔ ∃ c, taken = [c] ∧ accepts c = true :=
  Iff.rfl

end Pattern

namespace Reading

open Pattern

def AllBlank (cs : List Char) : Prop :=
  ∀ c ∈ cs, Text.isBlank c = true

/-- At least one digit and nothing else. -/
def Digits (cs : List Char) : Prop :=
  cs ≠ [] ∧ ∀ c ∈ cs, Text.isDigit c = true

/-- Digits with an optional fractional part. -/
def Decimal (cs : List Char) : Prop :=
  ∃ whole fraction, cs = whole ++ fraction ∧ Digits whole ∧
    (fraction = [] ∨ ∃ ds, fraction = '.' :: ds ∧ Digits ds)

/-- A decimal, of which the whole part may be left out. -/
def Numeral (cs : List Char) : Prop :=
  Decimal cs ∨ ∃ ds, cs = '.' :: ds ∧ Digits ds

theorem mem_of_numeral {cs : List Char} (h : Numeral cs) :
    ∀ c ∈ cs, Text.isDigit c = true ∨ c = '.' := by
  have hdigits {ds : List Char} (hds : Digits ds) :
      ∀ c ∈ ds, Text.isDigit c = true ∨ c = '.' := fun c hc => Or.inl (hds.2 c hc)
  have hpoint {ds : List Char} (hds : Digits ds) :
      ∀ c ∈ '.' :: ds, Text.isDigit c = true ∨ c = '.' :=
    List.forall_mem_cons.mpr ⟨Or.inr rfl, hdigits hds⟩
  rcases h with ⟨whole, fraction, rfl, hwhole, rfl | ⟨ds, rfl, hds⟩⟩ | ⟨ds, rfl, hds⟩
  · simpa using hdigits hwhole
  · exact List.forall_mem_append.mpr ⟨hdigits hwhole, hpoint hds⟩
  · exact hpoint hds

theorem ne_nil_of_numeral {cs : List Char} (h : Numeral cs) : cs ≠ [] := by
  rcases h with ⟨whole, fraction, rfl, hwhole, -⟩ | ⟨ds, rfl, -⟩
  · exact List.append_ne_nil_of_left_ne_nil hwhole.1 fraction
  · exact List.cons_ne_nil _ _

theorem allBlank_nil : AllBlank [] := by
  simp [AllBlank]

variable {before taken rest : List Char}

@[simp] theorem takes_blanks : blanks.Takes before taken rest ↔ AllBlank taken := by
  rw [blanks, takes_many, AllBlank]

@[simp] theorem takes_digits : digits.Takes before taken rest ↔ Digits taken := by
  rw [digits, takes_oneOrMore, Digits]

@[simp] theorem takes_sign :
    sign.Takes before taken rest ↔ taken = ['+'] ∨ taken = ['-'] := by
  simp [sign]

@[simp] theorem takes_decimal : decimal.Takes before taken rest ↔ Decimal taken := by
  simp only [decimal, cat, takes_seq, takes_digits, takes_optional, takes_char, Decimal]
  constructor
  · rintro ⟨whole, fraction, rfl, hwhole, ⟨s, ds, rfl, rfl, hds⟩ | rfl⟩
    · exact ⟨whole, '.' :: ds, rfl, hwhole, Or.inr ⟨ds, rfl, hds⟩⟩
    · exact ⟨whole, [], rfl, hwhole, Or.inl rfl⟩
  · rintro ⟨whole, fraction, rfl, hwhole, rfl | ⟨ds, rfl, hds⟩⟩
    · exact ⟨whole, [], rfl, hwhole, Or.inr rfl⟩
    · exact ⟨whole, '.' :: ds, rfl, hwhole, Or.inl ⟨['.'], ds, rfl, rfl, hds⟩⟩

@[simp] theorem takes_number : number.Takes before taken rest ↔ Numeral taken := by
  simp only [number, any, takes_alt, takes_decimal, Numeral, cat, takes_seq, takes_char,
    takes_digits]
  refine or_congr_right ⟨?_, ?_⟩
  · rintro ⟨s, ds, rfl, rfl, hds⟩
    exact ⟨ds, rfl, hds⟩
  · rintro ⟨ds, rfl, hds⟩
    exact ⟨['.'], ds, rfl, rfl, hds⟩

theorem takes_orderSign : orderSign.Takes before taken rest ↔
    taken = ['<', '='] ∨ taken = ['>', '='] ∨ taken = ['<'] ∨ taken = ['>'] := by
  simp [orderSign, any, text, cat, takes_seq, takes_alt]

theorem takes_inequalitySign : inequalitySign.Takes before taken rest ↔
    taken = ['<', '='] ∨ taken = ['>', '='] ∨ taken = ['!', '='] ∨ taken = ['<'] ∨
      taken = ['>'] := by
  simp [inequalitySign, any, text, cat, takes_seq, takes_alt]

theorem takes_manyExcept {cs : List Char} :
    (manyExcept cs).Takes before taken rest ↔ ∀ c ∈ taken, c ∉ cs := by
  simp [manyExcept]

end Reading

end EquationTutor
