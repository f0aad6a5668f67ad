import EquationTutor.Proofs.Pattern.Longest
import EquationTutor.Proofs.Polynomial.Occurrence
import EquationTutor.Proofs.Reading.AmountValues
import EquationTutor.Proofs.Reading.PowerTexts

namespace EquationTutor.Reading

open Pattern

section Shapes

def Mark (cs : List Char) : Prop :=
  cs = ['+'] ∨ cs = ['-']

def Denominator (cs : List Char) : Prop :=
  ∃ ds, cs = '/' :: ds ∧ Digits ds

/-- A coefficient, which may be empty or a lone sign, and a star that may be left out. -/
def Factor (cs : List Char) : Prop :=
  ∃ mark gap numeral denominator star,
    cs = mark ++ (gap ++ (numeral ++ denominator)) ++ star ∧
    (Mark mark ∨ mark = []) ∧ AllBlank gap ∧ (Numeral numeral ∨ numeral = []) ∧
    (Denominator denominator ∨ denominator = []) ∧ Times star

/-- A sign, a number and a star; the latter two may be left out. -/
def SignedFactor (cs : List Char) : Prop :=
  ∃ mark gap numeral star, cs = mark ++ (gap ++ numeral) ++ star ∧ Mark mark ∧ AllBlank gap ∧
    (Numeral numeral ∨ numeral = []) ∧ Times star

/-- A number or Euler's. -/
def Base (cs : List Char) : Prop :=
  Numeral cs ∨ cs = ['e']

/-- What stands between the two bases of an exponential in quadratic form. -/
def Between (cs : List Char) : Prop :=
  ∃ gap exponent factor, cs = gap ++ (exponent ++ factor) ∧ AllBlank gap ∧
    DoubledExponent exponent ∧ SignedFactor factor

def SignedNumeral (cs : List Char) : Prop :=
  ∃ mark gap numeral, cs = mark ++ (gap ++ numeral) ∧ Mark mark ∧ AllBlank gap ∧ Numeral numeral

/-- The exponent `x`, at most one constant term, and an equality with a number. -/
def Closing (cs : List Char) : Prop :=
  ∃ exponent constant gap value, cs = exponent ++ (constant ++ (gap ++ value)) ∧
    RaisedToX exponent ∧ (SignedNumeral constant ∨ constant = []) ∧ AllBlank gap ∧
    StartsWithValue value

end Shapes

/-- A text cut at two bases. -/
structure Cut where
  before : List Char
  factor : List Char
  base : List Char
  between : List Char
  secondBase : List Char
  rest : List Char

namespace Cut

def chars (c : Cut) : List Char :=
  c.before ++ (c.factor ++ (c.base ++ (c.between ++ (c.secondBase ++ c.rest))))

/-- The pieces are those of an exponential in quadratic form. -/
structure Fits (c : Cut) : Prop where
  factor : Factor c.factor
  base : Base c.base
  between : Between c.between
  secondBase : Base c.secondBase
  rest : Closing c.rest

/-- The cut that begins first comes first; of those that begin together the one with the longest
factor, and of those the one with most characters between the bases. -/
def Precedes (c d : Cut) : Prop :=
  c.before.length < d.before.length ∨ c.before.length = d.before.length ∧
    (d.factor.length < c.factor.length ∨ d.factor.length = c.factor.length ∧
      d.between.length < c.between.length)

/-- The first cut of a text. -/
structure IsTaken (c : Cut) (cs : List Char) : Prop where
  chars_eq : c.chars = cs
  fits : c.Fits
  first : ∀ d : Cut, d.chars = cs → d.Fits → ¬ d.Precedes c

end Cut

section Takes

variable {before taken rest : List Char}

theorem takes_overDigits : overDigits.Takes before taken rest ↔ Denominator taken := by
  simp only [overDigits, cat, takes_seq, takes_char, takes_digits, Denominator]
  constructor
  · rintro ⟨_, ds, rfl, rfl, hds⟩
    exact ⟨ds, rfl, hds⟩
  · rintro ⟨ds, rfl, hds⟩
    exact ⟨['/'], ds, rfl, rfl, hds⟩

theorem takes_base : base.Takes before taken rest ↔ Base taken := by
  simp only [base, any, takes_alt, takes_number, takes_char, Base]

theorem takes_factor : (seq (group 1 coefficient) times).Takes before taken rest ↔
    Factor taken := by
  simp only [coefficient, cat, takes_seq, takes_group, takes_optional, takes_sign, takes_blanks,
    takes_number, takes_overDigits, takes_times, Factor, Mark]
  constructor
  · rintro ⟨_, star, rfl, ⟨mark, _, rfl, hmark, gap, _, rfl, hgap, numeral, denominator, rfl,
      hnumeral, hdenominator⟩, hstar⟩
    exact ⟨mark, gap, numeral, denominator, star, rfl, hmark, hgap, hnumeral, hdenominator, hstar⟩
  · rintro ⟨mark, gap, numeral, denominator, star, rfl, hmark, hgap, hnumeral, hdenominator, hstar⟩
    exact ⟨_, star, rfl, ⟨mark, _, rfl, hmark, gap, _, rfl, hgap, numeral, denominator, rfl,
      hnumeral, hdenominator⟩, hstar⟩

def betweenBases : Pattern :=
  seq blanks (seq exponentTwoX (seq (group 3 (cat [sign, blanks, optional number])) times))

theorem takes_betweenBases : betweenBases.Takes before taken rest ↔ Between taken := by
  simp only [betweenBases, cat, takes_seq, takes_group, takes_optional, takes_sign, takes_blanks,
    takes_number, takes_times, takes_exponentTwoX, Between, SignedFactor, Mark]
  constructor
  · rintro ⟨gap, _, rfl, hgap, exponent, _, rfl, hexponent, _, star, rfl, ⟨mark, _, rfl, hmark,
      gap', numeral, rfl, hgap', hnumeral⟩, hstar⟩
    exact ⟨gap, exponent, _, rfl, hgap, hexponent, mark, gap', numeral, star, rfl, hmark, hgap',
      hnumeral, hstar⟩
  · rintro ⟨gap, exponent, _, rfl, hgap, hexponent, mark, gap', numeral, star, rfl, hmark, hgap',
      hnumeral, hstar⟩
    exact ⟨gap, _, rfl, hgap, exponent, _, rfl, hexponent, _, star, rfl, ⟨mark, _, rfl, hmark, gap',
      numeral, rfl, hgap', hnumeral⟩, hstar⟩

def behindBases : Pattern :=
  cat [exponentX, optional (group 5 (cat [sign, blanks, number])), equals, group 6 signedNumber]

theorem begins_number : number.Begins before rest ↔ ∃ point digit left,
    rest = point ++ digit :: left ∧ (point = [] ∨ point = ['.']) ∧ Text.isDigit digit = true := by
  simp only [Begins, takes_number]
  constructor
  · rintro ⟨_, left, rfl, ⟨whole, fraction, rfl, ⟨hne, hwhole⟩, -⟩ | ⟨ds, rfl, hne, hds⟩⟩
    · obtain ⟨d, whole, rfl⟩ := List.exists_cons_of_ne_nil hne
      exact ⟨[], d, whole ++ fraction ++ left, by simp, Or.inl rfl, hwhole d List.mem_cons_self⟩
    · obtain ⟨d, ds, rfl⟩ := List.exists_cons_of_ne_nil hne
      exact ⟨['.'], d, ds ++ left, by simp, Or.inr rfl, hds d List.mem_cons_self⟩
  · rintro ⟨point, d, left, rfl, hpoint, hd⟩
    have hdigits : Digits [d] := ⟨List.cons_ne_nil d [], by simpa using hd⟩
    rcases hpoint with rfl | rfl
    · exact ⟨[d], left, rfl, Or.inl ⟨[d], [], rfl, hdigits, Or.inl rfl⟩⟩
    · exact ⟨['.', d], left, rfl, Or.inr ⟨[d], rfl, hdigits⟩⟩

theorem begins_equals_number : (seq equals (group 6 signedNumber)).Begins before rest ↔
    ∃ gap value, rest = gap ++ value ∧ AllBlank gap ∧ StartsWithValue value := by
  have hnumber {before rest : List Char} : (seq number (optional overDigits)).Begins before rest ↔
      number.Begins before rest := by
    rw [begins_seq]
    constructor
    · rintro ⟨s, left, rfl, hs, -⟩
      exact ⟨s, left, rfl, hs⟩
    · rintro ⟨s, left, rfl, hs⟩
      exact ⟨s, left, rfl, hs, [], left, rfl, Or.inr rfl⟩
  simp only [begins_seq, equals, cat, takes_seq, takes_blanks, takes_char, begins_group, signedNumber,
    takes_optional, takes_sign, hnumber, begins_number, StartsWithValue]
  constructor
  · rintro ⟨_, _, rfl, ⟨gap, _, rfl, hgap, _, gap', rfl, rfl, hgap'⟩, mark, _, rfl, hmark, gap'', _,
      rfl, hgap'', point, digit, left, rfl, hpoint, hdigit⟩
    refine ⟨gap, '=' :: (gap' ++ mark ++ gap'' ++ point ++ digit :: left), by simp, hgap, gap', mark,
      gap'', point, digit, left, rfl, hgap', ?_, hgap'', hpoint, hdigit⟩
    rcases hmark with (rfl | rfl) | rfl <;> simp
  · rintro ⟨gap, _, rfl, hgap, gap', mark, gap'', point, digit, left, rfl, hgap', hmark, hgap'',
      hpoint, hdigit⟩
    refine ⟨gap ++ ('=' :: gap'), mark ++ (gap'' ++ (point ++ digit :: left)), by simp,
      ⟨gap, _, rfl, hgap, ['='], gap', rfl, rfl, hgap'⟩, mark, _, rfl, ?_, gap'', _, rfl, hgap'',
      point, digit, left, rfl, hpoint, hdigit⟩
    rcases hmark with rfl | rfl | rfl <;> simp

theorem begins_behindBases : behindBases.Begins before rest ↔ Closing rest := by
  simp only [behindBases, cat, begins_seq (p := exponentX), begins_seq (p := optional _),
    begins_equals_number, takes_exponentX, takes_optional, takes_group, takes_seq, takes_sign,
    takes_blanks, takes_number, Closing, SignedNumeral, Mark]
  constructor
  · rintro ⟨exponent, _, rfl, hexponent, constant, _, rfl, hconstant, gap, value, rfl, hgap, hvalue⟩
    refine ⟨exponent, constant, gap, value, rfl, hexponent, hconstant.imp_left ?_, hgap, hvalue⟩
    rintro ⟨mark, _, rfl, hmark, gap, numeral, rfl, hgap, hnumeral⟩
    exact ⟨mark, gap, numeral, rfl, hmark, hgap, hnumeral⟩
  · rintro ⟨exponent, constant, gap, value, rfl, hexponent, hconstant, hgap, hvalue⟩
    refine ⟨exponent, _, rfl, hexponent, constant, _, rfl, hconstant.imp_left ?_, gap, value, rfl,
      hgap, hvalue⟩
    rintro ⟨mark, gap, numeral, rfl, hmark, hgap, hnumeral⟩
    exact ⟨mark, _, rfl, hmark, gap, numeral, rfl, hgap, hnumeral⟩

end Takes

section PrefersLonger

theorem prefersLonger_decimal : decimal.PrefersLonger := by
  refine prefersLonger_seq (prefersLonger_repeated _ _) (prefersLonger_optional (prefersLonger_seq
    (prefersLonger_char '.') (prefersLonger_repeated _ _) (catchesUp_one _)))
    (catchesUp_of_startsWith fun d hd => ?_)
  obtain rfl : d = '.' := by simpa [startsWith, cat, char, nullable] using hd
  decide

theorem prefersLonger_number : number.PrefersLonger := by
  refine prefersLonger_alt prefersLonger_decimal (prefersLonger_seq (prefersLonger_char '.')
    (prefersLonger_repeated _ _) (catchesUp_one _)) fun before cs => ?_
  by_cases hpoint : cs.head? = some '.'
  · refine Or.inl (refuses_of_startsWith rfl fun d hd => ?_)
    obtain rfl : '.' = d := by simpa [hpoint] using hd
    decide
  · refine Or.inr (refuses_of_startsWith rfl fun d hd => ?_)
    rw [Option.mem_def] at hd
    rw [hd] at hpoint
    simpa [startsWith, any, cat, char, nullable] using hpoint

theorem prefersLonger_sign : sign.PrefersLonger :=
  prefersLonger_one _

theorem prefersLonger_blanks : blanks.PrefersLonger :=
  prefersLonger_repeated _ _

theorem catchesUp_blanks {q : Pattern} (hq : ∀ d, q.startsWith d = true → Text.isBlank d = false) :
    blanks.CatchesUp q := by
  refine catchesUp_of_startsWith fun d hd => ?_
  simpa [avoids, blanks, many] using hq d hd

theorem catchesUp_sign {q : Pattern} (hplus : q.startsWith '+' = false)
    (hminus : q.startsWith '-' = false) : (optional sign).CatchesUp q := by
  refine catchesUp_of_startsWith fun d hd => ?_
  have hne : d ≠ '+' ∧ d ≠ '-' := by
    constructor <;> rintro rfl
    · simp [hplus] at hd
    · simp [hminus] at hd
  simpa [avoids, sign, anyOf] using hne

theorem catchesUp_times {p : Pattern} (hp : p.avoids '*' = true) : p.CatchesUp times := by
  intro before s v t rest _ hv _ _ htimes
  have hstar : '*' ∉ v := fun h => notMem_of_takes hp hv (List.mem_append_right s h)
  rw [takes_times] at htimes ⊢
  obtain ⟨gap, star, gap', hsplit, hgap, hmark, hgap'⟩ := htimes
  rcases List.append_eq_append_iff.mp hsplit with ⟨w, rfl, rfl⟩ | ⟨w, rfl, hw⟩
  · exact ⟨w, star, gap', rfl, fun c hc => hgap c (List.mem_append_right v hc), hmark, hgap'⟩
  · rcases hmark with rfl | rfl
    · cases w with
      | nil => exact ⟨[], ['*'], gap', hw.symm, allBlank_nil, Or.inl rfl, hgap'⟩
      | cons c w =>
          obtain ⟨rfl, -⟩ := List.cons.inj hw
          exact absurd (by simp) hstar
    · obtain rfl : gap' = w ++ t := hw
      exact ⟨[], [], t, rfl, allBlank_nil, Or.inr rfl,
        fun c hc => hgap' c (List.mem_append_right w hc)⟩

theorem prefersLonger_times : times.PrefersLonger := by
  refine prefersLonger_seq prefersLonger_blanks (prefersLonger_seq
    (prefersLonger_optional (prefersLonger_char '*')) prefersLonger_blanks
    (catchesUp_of_startsWith fun d hd => ?_)) ?_
  · have hblank : Text.isBlank d = true := by
      simpa [startsWith, cat, blanks, many] using hd
    have hne : d ≠ '*' := by
      rintro rfl
      revert hblank
      decide
    simpa [avoids, char] using hne
  · rintro before s v t rest - hv hne - ⟨star, gap, hsplit, hstar, hgap⟩
    have hblank : AllBlank v := fun c hc => takes_blanks.mp hv c (List.mem_append_right s hc)
    rcases hstar with hstar | rfl
    · rw [takes_char.mp hstar] at hsplit
      obtain ⟨c, v, rfl⟩ := List.exists_cons_of_ne_nil hne
      obtain ⟨rfl, -⟩ := List.cons.inj hsplit
      exact absurd (hblank '*' List.mem_cons_self) (by decide)
    · obtain rfl : v ++ t = gap := hsplit
      exact ⟨[], t, rfl, Or.inr rfl, takes_blanks.mpr fun c hc =>
        takes_blanks.mp hgap c (List.mem_append_right v hc)⟩

theorem startsWith_number {d : Char} (h : number.startsWith d = true) :
    Text.isDigit d = true ∨ d = '.' := by
  simpa [startsWith, number, decimal, any, cat, char, digits, oneOrMore, nullable] using h

theorem not_blank_of_startsWith_number {d : Char} (h : number.startsWith d = true) :
    Text.isBlank d = false := by
  rcases startsWith_number h with hdigit | rfl
  · exact Text.not_blank_of_isDigit hdigit
  · decide

theorem startsWith_overDigits {d : Char} (h : overDigits.startsWith d = true) : d = '/' := by
  simpa [startsWith, overDigits, cat, char, nullable] using h

theorem prefersLonger_coefficient : coefficient.PrefersLonger := by
  refine prefersLonger_seq (prefersLonger_optional prefersLonger_sign)
    (prefersLonger_seq prefersLonger_blanks (prefersLonger_seq
      (prefersLonger_optional prefersLonger_number) (prefersLonger_optional (prefersLonger_seq
        (prefersLonger_char '/') (prefersLonger_repeated _ _) (catchesUp_one _)))
      (catchesUp_of_startsWith fun d hd => ?_)) (catchesUp_blanks fun d hd => ?_))
    (catchesUp_sign (by decide) (by decide))
  · rw [startsWith_overDigits (d := d) hd]
    decide
  · rcases Bool.or_eq_true_iff.mp hd with hnumber | hdenominator
    · exact not_blank_of_startsWith_number hnumber
    · rw [startsWith_overDigits (d := d) hdenominator]
      decide

section CharThen

variable {c : Char} {q : Pattern}

theorem prefersLonger_char_seq (hq : q.PrefersLonger) : (seq (char c) q).PrefersLonger :=
  prefersLonger_seq (prefersLonger_char c) hq (catchesUp_one _)

theorem prefersLonger_blanks_char_seq (hc : Text.isBlank c = false) (hq : q.PrefersLonger) :
    (seq blanks (seq (char c) q)).PrefersLonger := by
  refine prefersLonger_seq prefersLonger_blanks (prefersLonger_char_seq hq)
    (catchesUp_blanks fun d hd => ?_)
  obtain rfl : d = c := by simpa [startsWith, char, nullable] using hd
  exact hc

end CharThen

theorem prefersLonger_exponentTwoX : exponentTwoX.PrefersLonger := by
  refine prefersLonger_char_seq (prefersLonger_blanks_char_seq (by decide)
    (prefersLonger_blanks_char_seq (by decide) (prefersLonger_seq prefersLonger_times
      (prefersLonger_char_seq (prefersLonger_blanks_char_seq (by decide) prefersLonger_blanks))
      (catchesUp_of_startsWith fun d hd => ?_))))
  obtain rfl : d = 'x' := by simpa [startsWith, cat, char, nullable] using hd
  decide

theorem prefersLonger_betweenBases : betweenBases.PrefersLonger := by
  refine prefersLonger_seq prefersLonger_blanks (prefersLonger_seq prefersLonger_exponentTwoX
    (prefersLonger_seq (prefersLonger_group (prefersLonger_seq prefersLonger_sign
      (prefersLonger_seq prefersLonger_blanks (prefersLonger_optional prefersLonger_number)
        (catchesUp_blanks fun d hd => not_blank_of_startsWith_number hd)) (catchesUp_one _)))
      prefersLonger_times (catchesUp_times (by decide)))
    (catchesUp_of_startsWith fun d hd => ?_)) (catchesUp_blanks fun d hd => ?_)
  · have hmark : d = '+' ∨ d = '-' := by
      simpa [startsWith, sign, anyOf, cat, nullable] using hd
    rcases hmark with rfl | rfl <;> decide
  · obtain rfl : d = '^' := by
      simpa [startsWith, exponentTwoX, char, cat, nullable] using hd
    decide

end PrefersLonger

section Found

variable {before rest : List Char}

def secondPower : Pattern :=
  seq (group 4 base) behindBases

def bothPowers : Pattern :=
  seq (group 2 base) (seq betweenBases secondPower)

theorem begins_secondPower : secondPower.Begins before rest ↔
    ∃ base left, rest = base ++ left ∧ Base base ∧ Closing left := by
  simp only [secondPower, begins_seq, takes_group, takes_base, begins_behindBases]

theorem begins_bothPowers : bothPowers.Begins before rest ↔ ∃ base between second left,
    rest = base ++ (between ++ (second ++ left)) ∧ Base base ∧ Between between ∧ Base second ∧
      Closing left := by
  simp only [bothPowers, begins_seq, takes_group, takes_base, takes_betweenBases,
    begins_secondPower]
  constructor
  · rintro ⟨base, _, rfl, hbase, between, _, rfl, hbetween, second, left, rfl, hsecond, hleft⟩
    exact ⟨base, between, second, left, rfl, hbase, hbetween, hsecond, hleft⟩
  · rintro ⟨base, between, second, left, rfl, hbase, hbetween, hsecond, hleft⟩
    exact ⟨base, _, rfl, hbase, between, _, rfl, hbetween, second, left, rfl, hsecond, hleft⟩

/-- The shape, by the pieces of a cut. -/
def factorThenPowers : Pattern :=
  seq (seq (group 1 coefficient) times) bothPowers

theorem ends_exponentialQuadratic (c : Cursor) (g : Groups) :
    Shape.exponentialQuadratic.ends c g = factorThenPowers.ends c g := by
  have hseq (p q : Pattern) (c : Cursor) (g : Groups) : (seq p q).ends c g =
      (p.ends c g).flatMap fun e => q.ends e.cursor e.groups := rfl
  simp only [Shape.exponentialQuadratic, factorThenPowers, bothPowers, secondPower, betweenBases,
    behindBases, cat, hseq, List.flatMap_assoc]

theorem Cut.Fits.begins {c : Cut} (h : c.Fits) : factorThenPowers.Begins c.before
    (c.factor ++ (c.base ++ (c.between ++ (c.secondBase ++ c.rest)))) := by
  refine begins_seq.mpr ⟨c.factor, _, rfl, takes_factor.mpr h.factor, ?_⟩
  exact begins_bothPowers.mpr ⟨c.base, c.between, c.secondBase, c.rest, rfl, h.base, h.between,
    h.secondBase, h.rest⟩

theorem refuses_exponentialQuadratic_iff :
    Shape.exponentialQuadratic.Refuses before rest ↔ factorThenPowers.Refuses before rest := by
  rw [refuses_iff_ends_eq_nil, refuses_iff_ends_eq_nil, ends_exponentialQuadratic]

/-- Only blanks stand before the next caret. -/
def CaretNext (cs : List Char) : Prop :=
  ∃ gap left, cs = gap ++ '^' :: left ∧ AllBlank gap

theorem Between.caretNext {cs : List Char} (h : Between cs) (rest : List Char) :
    CaretNext (cs ++ rest) := by
  obtain ⟨gap, _, factor, rfl, hgap, ⟨gap₁, gap₂, star, gap₃, gap₄, rfl, -⟩, -⟩ := h
  rw [List.cons_append, List.append_assoc, List.cons_append]
  exact ⟨gap, _, rfl, hgap⟩

theorem Closing.caretNext {cs : List Char} (h : Closing cs) : CaretNext cs := by
  obtain ⟨_, constant, gap, value, rfl, ⟨gap₁, gap₂, power, gap₃, rfl, hgap₁, -⟩, -⟩ := h
  rw [List.append_assoc, List.cons_append]
  exact ⟨gap₁, _, rfl, hgap₁⟩

theorem Base.not_blank_or_caret {b : List Char} (h : Base b) :
    ∀ c ∈ b, ¬ (Text.isBlank c = true ∨ c = '^') := by
  rintro c hc (hblank | rfl)
  · rcases h with h | rfl
    · rcases mem_of_numeral h c hc with hdigit | rfl
      · rw [Text.not_blank_of_isDigit hdigit] at hblank
        cases hblank
      · revert hblank
        decide
    · rw [List.mem_singleton.mp hc] at hblank
      revert hblank
      decide
  · rcases h with h | rfl
    · rcases mem_of_numeral h '^' hc with hdigit | hpoint
      · revert hdigit
        decide
      · cases hpoint
    · cases List.mem_singleton.mp hc

theorem CaretNext.head? {cs : List Char} (h : CaretNext cs) :
    ∀ c ∈ cs.head?, Text.isBlank c = true ∨ c = '^' := by
  obtain ⟨gap, left, rfl, hgap⟩ := h
  cases gap with
  | nil => simp
  | cons d gap =>
      rintro c hc
      obtain rfl : d = c := by simpa using hc
      exact Or.inl (hgap d List.mem_cons_self)

theorem Base.append_inj {b b' t t' : List Char} (hb : Base b) (hb' : Base b') (ht : CaretNext t)
    (ht' : CaretNext t') (h : b ++ t = b' ++ t') : b = b' ∧ t = t' :=
  append_inj_of_first h hb.not_blank_or_caret hb'.not_blank_or_caret ht.head? ht'.head?

/-- A cut is the first one if nothing fits at an earlier place, behind a longer factor, or with more
characters between the bases. -/
theorem Cut.Fits.not_precedes {c d : Cut} (hc : c.Fits) (hd : d.Fits) (hchars : d.chars = c.chars)
    (hbefore : ∀ s t, c.before = s ++ t → t ≠ [] → ¬ factorThenPowers.Begins s
      (t ++ (c.factor ++ (c.base ++ (c.between ++ (c.secondBase ++ c.rest))))))
    (hfactor : ∀ s t, c.factor ++ (c.base ++ (c.between ++ (c.secondBase ++ c.rest))) = s ++ t →
      Factor s → c.factor.length < s.length → ¬ bothPowers.Begins (c.before ++ s) t)
    (hbetween : ∀ s t, c.between ++ (c.secondBase ++ c.rest) = s ++ t → Between s →
      c.between.length < s.length →
        ¬ secondPower.Begins (c.before ++ c.factor ++ c.base ++ s) t) : ¬ d.Precedes c := by
  rw [Cut.chars, Cut.chars] at hchars
  rintro (hlt | ⟨heq, hprec⟩)
  · rcases List.append_eq_append_iff.mp hchars with ⟨u, hu, hrest⟩ | ⟨u, hu, -⟩
    · refine hbefore d.before u hu ?_ (hrest ▸ hd.begins)
      rintro rfl
      rw [hu, List.append_nil] at hlt
      exact lt_irrefl _ hlt
    · rw [hu, List.length_append] at hlt
      omega
  · obtain ⟨-, hchars⟩ := List.append_inj hchars heq
    rcases hprec with hlt | ⟨heq, hlt⟩
    · exact hfactor _ _ hchars.symm hd.factor hlt (begins_bothPowers.mpr
        ⟨_, _, _, _, rfl, hd.base, hd.between, hd.secondBase, hd.rest⟩)
    · obtain ⟨-, hchars⟩ := List.append_inj hchars heq.symm
      obtain ⟨-, hchars⟩ := hd.base.append_inj hc.base (hd.between.caretNext _)
        (hc.between.caretNext _) hchars
      exact hbetween _ _ hchars.symm hd.between hlt
        (begins_secondPower.mpr ⟨_, _, rfl, hd.secondBase, hd.rest⟩)

theorem lookup_bases {found₁ found₃ found₅ : Groups} {first second : Capture}
    (h₁ : ∀ w ∈ found₁, w.1 = 1) (h₃ : ∀ w ∈ found₃, w.1 = 3) :
    let g := found₁ ++ [(2, first)] ++ found₃ ++ [(4, second)] ++ found₅
    g.lookup 2 = some first ∧ g.lookup 4 = some second := by
  constructor
  · simp only [List.append_assoc, List.singleton_append]
    exact lookup_append_cons fun w hw => by simp [h₁ w hw]
  · rw [List.append_assoc _ [(4, _)], List.singleton_append]
    refine lookup_append_cons fun w hw => ?_
    simp only [List.mem_append, List.mem_singleton] at hw
    rcases hw with (hw | rfl) | hw
    · simp [h₁ w hw]
    · simp
    · simp [h₃ w hw]

theorem exists_isTaken {s : String} {m : Match}
    (h : Shape.exponentialQuadratic.find? s = some m) :
    ∃ c : Cut, c.IsTaken s.toList ∧ m.group 2 = String.ofList c.base ∧
      m.group 4 = String.ofList c.secondBase := by
  have hsearch : Shape.exponentialQuadratic.search (Cursor.after [] s.toList) = some m := h
  obtain ⟨before, _, rest, g, hs, hbest, rfl, hnone⟩ := exists_of_search_eq_some hsearch
  rw [List.nil_append, Best, ends_exponentialQuadratic, ← Best] at hbest
  obtain ⟨factor, _, e₁, rfl, he₁, hcursor₁, hbest₁, hlonger₁⟩ :=
    exists_longest_of_best_seq (prefersLonger_seq (prefersLonger_group prefersLonger_coefficient)
      prefersLonger_times (catchesUp_times (by decide))) hbest
  obtain ⟨base, _, e₂, rfl, hmem₂, hcursor₂, hbest₂⟩ := exists_end_of_best_seq hbest₁
  obtain ⟨between, _, e₃, rfl, he₃, hcursor₃, hbest₃, hlonger₃⟩ :=
    exists_longest_of_best_seq prefersLonger_betweenBases hbest₂
  obtain ⟨secondBase, t, e₄, rfl, hmem₄, hcursor₄, hbest₄⟩ := exists_end_of_best_seq hbest₃
  have hfits : Cut.Fits ⟨before, factor, base, between, secondBase, t ++ rest⟩ := {
    factor := takes_factor.mp (takes_of_mem_ends_of_cursor he₁ hcursor₁)
    base := takes_base.mp (takes_group.mp (takes_of_mem_ends_of_cursor hmem₂ hcursor₂))
    between := takes_betweenBases.mp (takes_of_mem_ends_of_cursor he₃ hcursor₃)
    secondBase := takes_base.mp (takes_group.mp (takes_of_mem_ends_of_cursor hmem₄ hcursor₄))
    rest := begins_behindBases.mp ⟨t, rest, rfl, takes_of_best hbest₄⟩ }
  refine ⟨_, ⟨by simp [Cut.chars, hs], hfits, fun d hd hdfits => ?_⟩, ?_⟩
  · refine hfits.not_precedes hdfits (by simpa [Cut.chars, hs] using hd) ?_ ?_ ?_
    · intro u v huv hne
      have hrefuses := hnone u v huv hne
      rw [List.nil_append, refuses_exponentialQuadratic_iff, refuses_iff_not_begins] at hrefuses
      simpa using hrefuses
    · intro u left hsplit hu hlt
      exact refuses_iff_not_begins.mp
        (hlonger₁ u left (by simpa using hsplit) (takes_factor.mpr hu) hlt)
    · intro u left hsplit hu hlt
      exact refuses_iff_not_begins.mp
        (hlonger₃ u left (by simpa using hsplit) (takes_betweenBases.mpr hu) hlt)
  · obtain ⟨found₁, hfound₁, hindices₁⟩ := exists_groups_eq_append he₁
    obtain ⟨found₃, hfound₃, hindices₃⟩ := exists_groups_eq_append he₃
    obtain ⟨found₅, hfound₅, -⟩ := exists_groups_eq_append (List.mem_of_head? hbest₄)
    have hgroup₂ := groups_eq_of_mem_group (by decide) hmem₂ hcursor₂
    have hgroup₄ := groups_eq_of_mem_group (by decide) hmem₄ hcursor₄
    simp only [hfound₁, hgroup₂, hfound₃, hgroup₄, List.nil_append] at hfound₅
    obtain ⟨hfirst, hsecond⟩ : g.lookup 2 = some ⟨(before ++ factor).length, base⟩ ∧
        g.lookup 4 = some ⟨(before ++ factor ++ base ++ between).length, secondBase⟩ := by
      rw [hfound₅]
      exact lookup_bases (fun w hw => List.mem_singleton.mp (hindices₁ w hw))
        fun w hw => List.mem_singleton.mp (hindices₃ w hw)
    simp [Match.group, Match.group?, Match.capture?, hfirst, hsecond, Capture.text]

theorem Cut.not_precedes_iff {c d : Cut} : ¬ d.Precedes c ∧ ¬ c.Precedes d ↔
    c.before.length = d.before.length ∧ c.factor.length = d.factor.length ∧
      c.between.length = d.between.length := by
  simp only [Cut.Precedes]
  omega

/-- All first cuts of a text show the same bases. -/
theorem Cut.IsTaken.bases_eq {c d : Cut} {cs : List Char} (hc : c.IsTaken cs) (hd : d.IsTaken cs) :
    c.base = d.base ∧ c.secondBase = d.secondBase := by
  obtain ⟨hbefore, hfactor, hbetween⟩ := Cut.not_precedes_iff.mp
    ⟨hc.first d hd.chars_eq hd.fits, hd.first c hc.chars_eq hc.fits⟩
  have hchars := hc.chars_eq.trans hd.chars_eq.symm
  obtain ⟨-, hchars⟩ := List.append_inj hchars hbefore
  obtain ⟨-, hchars⟩ := List.append_inj hchars hfactor
  obtain ⟨hbase, hchars⟩ := hc.fits.base.append_inj hd.fits.base (hc.fits.between.caretNext _)
    (hd.fits.between.caretNext _) hchars
  obtain ⟨-, hchars⟩ := List.append_inj hchars hbetween
  exact ⟨hbase, (hc.fits.secondBase.append_inj hd.fits.secondBase hc.fits.rest.caretNext
    hd.fits.rest.caretNext hchars).1⟩

theorem Cut.Fits.exists_find? {c : Cut} {s : String} (hs : c.chars = s.toList) (h : c.Fits) :
    ∃ m, Shape.exponentialQuadratic.find? s = some m := by
  rw [← Option.isSome_iff_exists]
  change Shape.exponentialQuadratic.occursIn s = true
  rw [occursIn_iff, within_iff_begins]
  refine ⟨c.before, _, hs.symm, ?_⟩
  have hbegins := h.begins
  rw [← not_not (a := factorThenPowers.Begins _ _), ← refuses_iff_not_begins,
    ← refuses_exponentialQuadratic_iff, refuses_iff_not_begins, not_not] at hbegins
  exact hbegins

variable {α : Type} [Scalar α] {text : String}

variable (α text) in
/-- The bases of the first cut differ in value. -/
def TakesTwoBases : Prop :=
  ∃ c : Cut, c.IsTaken text.toList ∧ Scalar.isZero (baseValue (String.ofList c.base) -
    baseValue (String.ofList c.secondBase) : α) = false

theorem isSome_mixedBases_iff : (mixedBases α text).isSome = true ↔ TakesTwoBases α text := by
  cases hfind : Shape.exponentialQuadratic.find? text with
  | none =>
      refine iff_of_false (by simp [mixedBases, hfind]) ?_
      rintro ⟨c, hc, -⟩
      obtain ⟨m, hm⟩ := hc.fits.exists_find? hc.chars_eq
      rw [hfind] at hm
      cases hm
  | some m =>
      obtain ⟨c, hc, hfirst, hsecond⟩ := exists_isTaken hfind
      have hmixed : (mixedBases α text).isSome = true ↔ Scalar.isZero (baseValue
          (String.ofList c.base) - baseValue (String.ofList c.secondBase) : α) = false := by
        rw [mixedBases, hfind]
        dsimp only
        rw [hfirst, hsecond]
        split <;> rename_i hzero <;> simp [hzero]
      rw [hmixed]
      refine ⟨fun h => ⟨c, hc, h⟩, ?_⟩
      rintro ⟨d, hd, h⟩
      obtain ⟨hbase, hsecondBase⟩ := hc.bases_eq hd
      rwa [hbase, hsecondBase]

end Found

section Shown

/-- A base that is not the end of a longer one. -/
def WholeBase (before base : List Char) : Prop :=
  Base base ∧ ∀ s t, before = s ++ t → t ≠ [] → ¬ Base (t ++ base)

/-- The number of a base that is written in digits. -/
def baseNumber (base : List Char) : Option ℚ :=
  if base = ['e'] then none else some (numeralNumber base)

/-- A power with the exponent `2x`, a sign, and a power with the exponent `x` before the next
relation sign; their bases, read as far as they go, are different numbers. -/
def ShowsTwoBases (cs : List Char) : Prop :=
  ∃ before base gap exponent mark middle second gap' gap'' opening gap₃ rest,
    cs = before ++ (base ++ (gap ++ (exponent ++ mark :: (middle ++ (second ++ (gap' ++
      '^' :: (gap'' ++ (opening ++ (gap₃ ++ 'x' :: rest))))))))) ∧
    WholeBase before base ∧ AllBlank gap ∧ DoubledExponent exponent ∧ (mark = '+' ∨ mark = '-') ∧
    Avoids ['=', '<', '>'] middle ∧
    WholeBase (before ++ (base ++ (gap ++ (exponent ++ mark :: middle)))) second ∧
    AllBlank gap' ∧ AllBlank gap'' ∧ (opening = ['('] ∨ opening = []) ∧ AllBlank gap₃ ∧
    baseNumber base ≠ baseNumber second

theorem WholeBase.unique {before base before' base' : List Char} (h : WholeBase before base)
    (h' : WholeBase before' base') (heq : before ++ base = before' ++ base') : base = base' := by
  rcases List.append_eq_append_iff.mp heq with ⟨t, rfl, rfl⟩ | ⟨t, rfl, rfl⟩
  · cases t with
    | nil => rfl
    | cons c t => exact absurd h.1 (h'.2 before (c :: t) rfl (List.cons_ne_nil c t))
  · cases t with
    | nil => rfl
    | cons c t => exact absurd h'.1 (h.2 before' (c :: t) rfl (List.cons_ne_nil c t))

theorem WholeBase.of_not_digit {before base : List Char} (h : Numeral base)
    (hbefore : ∀ c ∈ before.getLast?, Text.isDigit c = false ∧ c ≠ '.') : WholeBase before base := by
  refine ⟨Or.inl h, ?_⟩
  rintro s t rfl hne (hnumeral | heuler)
  · obtain ⟨t, c, rfl⟩ := (List.eq_nil_or_concat t).resolve_left hne
    rw [List.concat_eq_append] at hbefore hnumeral
    obtain ⟨hdigit, hpoint⟩ := hbefore c (by simp)
    rcases mem_of_numeral hnumeral c (by simp) with hc | hc
    · rw [hc] at hdigit
      cases hdigit
    · exact hpoint hc
  · have hlength := congrArg List.length heuler
    have := List.length_pos_iff.mpr (ne_nil_of_numeral h)
    have := List.length_pos_iff.mpr hne
    simp only [List.length_append, List.length_singleton] at hlength
    omega

theorem eq_of_append_allBlank (before : List Char) {cs gap : List Char} {c : Char}
    (h : before ++ [c] = cs ++ gap) (hgap : AllBlank gap) (hc : Text.isBlank c = false) :
    before ++ [c] = cs := by
  rcases List.eq_nil_or_concat gap with rfl | ⟨gap, d, rfl⟩
  · rw [h, List.append_nil]
  · rw [List.concat_eq_append, ← List.append_assoc] at h
    obtain ⟨-, hd⟩ := List.append_inj' h rfl
    obtain rfl : c = d := by simpa using hd
    rw [hgap c (by simp)] at hc
    cases hc

theorem eq_of_two_carets {a b rest u v w : List Char} (ha : '^' ∉ a) (hb : '^' ∉ b)
    (hrest : '^' ∉ rest) (h : a ++ '^' :: (b ++ '^' :: rest) = u ++ '^' :: (v ++ '^' :: w)) :
    a = u ∧ b = v := by
  have hcount := congrArg (List.count '^') h
  simp only [List.count_append, List.count_cons_self, List.count_eq_zero.mpr ha,
    List.count_eq_zero.mpr hb, List.count_eq_zero.mpr hrest] at hcount
  have hu : '^' ∉ u := List.count_eq_zero.mp (by omega)
  have hv : '^' ∉ v := List.count_eq_zero.mp (by omega)
  have hnot {cs : List Char} (hcs : '^' ∉ cs) : ∀ c ∈ cs, ¬ c = '^' := by
    rintro _ hc rfl
    exact hcs hc
  obtain ⟨rfl, hrest⟩ := append_inj_of_first h (hnot ha) (hnot hu) (by simp) (by simp)
  obtain ⟨rfl, -⟩ := append_inj_of_first (List.cons.inj hrest).2 (hnot hb) (hnot hv) (by simp)
    (by simp)
  exact ⟨rfl, rfl⟩

theorem ShowsTwoBases.exists_of_two_carets {a b rest : List Char} (ha : '^' ∉ a) (hb : '^' ∉ b)
    (hrest : '^' ∉ rest) (h : ShowsTwoBases (a ++ '^' :: (b ++ '^' :: rest))) :
    ∃ before base gap before' base' gap', a = before ++ base ++ gap ∧
      a ++ '^' :: b = before' ++ base' ++ gap' ∧ WholeBase before base ∧
      WholeBase before' base' ∧ AllBlank gap ∧ AllBlank gap' ∧ baseNumber base ≠ baseNumber base' := by
  obtain ⟨before, base, gap, _, mark, middle, second, gap', gap'', opening, gap₃, left, hsplit,
    hbase, hgap, ⟨g₁, g₂, star, g₃, g₄, rfl, -⟩, -, -, hsecond, hgap', -, -, -, hne⟩ := h
  obtain ⟨hfirst, htail⟩ := eq_of_two_carets ha hb hrest (u := before ++ (base ++ gap))
    (v := g₁ ++ '(' :: (g₂ ++ '2' :: (star ++ 'x' :: (g₃ ++ ')' :: g₄))) ++
      mark :: (middle ++ (second ++ gap')))
    (w := gap'' ++ (opening ++ (gap₃ ++ 'x' :: left))) (by simpa using hsplit)
  refine ⟨before, base, gap, _, second, gap', by simpa using hfirst, ?_, hbase, hsecond, hgap,
    hgap', hne⟩
  rw [hfirst, htail]
  simp

end Shown

end EquationTutor.Reading
