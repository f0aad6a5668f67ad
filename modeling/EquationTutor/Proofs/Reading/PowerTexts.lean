import EquationTutor.Proofs.Reading.LinearTexts

namespace EquationTutor.Reading

open Pattern

section Shapes

/-- Characters among which some do not occur. -/
def Avoids (excluded cs : List Char) : Prop :=
  ∀ c ∈ cs, c ∉ excluded

/-- No word character stands in front of this place. -/
def StartsWord (before : List Char) : Prop :=
  before.getLast?.any Text.isWordChar = false

/-- The exponent `x`, also in parentheses. -/
def PlainExponent (power : List Char) : Prop :=
  ∃ opening gap gap' closing, power = opening ++ gap ++ 'x' :: (gap' ++ closing) ∧
    (opening = [] ∨ opening = ['(']) ∧ AllBlank gap ∧ AllBlank gap' ∧
    (closing = [] ∨ closing = [')'])

/-- A caret and the exponent `x`, with blanks around both. -/
def RaisedToX (cs : List Char) : Prop :=
  ∃ gap gap' power gap'', cs = gap ++ '^' :: (gap' ++ power ++ gap'') ∧ AllBlank gap ∧
    AllBlank gap' ∧ PlainExponent power ∧ AllBlank gap''

/-- A multiplication sign, which may be left out, and blanks around it. -/
def Times (cs : List Char) : Prop :=
  ∃ gap star gap', cs = gap ++ (star ++ gap') ∧ AllBlank gap ∧ (star = ['*'] ∨ star = []) ∧
    AllBlank gap'

/-- The exponent `2x` in parentheses. -/
def DoubledExponent (cs : List Char) : Prop :=
  ∃ gap gap' star gap'' gap₃,
    cs = '^' :: (gap ++ '(' :: (gap' ++ '2' :: (star ++ 'x' :: (gap'' ++ ')' :: gap₃)))) ∧
    AllBlank gap ∧ AllBlank gap' ∧ Times star ∧ AllBlank gap'' ∧ AllBlank gap₃

/-- A variable in parentheses. -/
def Argument (v : Char) (cs : List Char) : Prop :=
  ∃ gap gap' gap'', cs = gap ++ '(' :: (gap' ++ v :: (gap'' ++ [')'])) ∧ AllBlank gap ∧
    AllBlank gap' ∧ AllBlank gap''

/-- The square of `x`. -/
def Square (cs : List Char) : Prop :=
  ∃ gap gap', cs = 'x' :: (gap ++ '^' :: (gap' ++ ['2'])) ∧ AllBlank gap ∧ AllBlank gap'

def DigitBase (_ : List Char) (base : Char) : Prop :=
  Text.isDigit base = true

/-- A digit, or an `e` with no word character in front of it. -/
def PowerBase (before : List Char) (base : Char) : Prop :=
  Text.isDigit base = true ∨ base = 'e' ∧ StartsWord before

/-- A power with the exponent `x` is followed at once by what `follows` tells. -/
def PowerThen (isBase : List Char → Char → Prop) (follows : List Char → Prop) (cs : List Char) :
    Prop :=
  ∃ before base gap gap' power gap'' rest,
    cs = before ++ base :: (gap ++ '^' :: (gap' ++ power ++ gap'' ++ rest)) ∧
    isBase before base ∧ AllBlank gap ∧ AllBlank gap' ∧ PlainExponent power ∧
    AllBlank gap'' ∧ follows rest

def StartsWithEquals (cs : List Char) : Prop :=
  ∃ rest, cs = '=' :: rest

def StartsWithRelation (cs : List Char) : Prop :=
  ∃ c rest, cs = c :: rest ∧ (c = '=' ∨ c = '<' ∨ c = '>')

def StartsWithInequality (cs : List Char) : Prop :=
  StartsWithOrder cs ∨ ∃ rest, cs = '!' :: '=' :: rest

/-- A power with the exponent `2x`, a sign, and a power with the exponent `x` before the next
relation sign. -/
def DoubledPower (cs : List Char) : Prop :=
  ∃ before exponent mark middle gap opening gap' rest,
    cs = before ++ (exponent ++ mark :: (middle ++ '^' :: (gap ++ (opening ++ (gap' ++
      'x' :: rest))))) ∧
    DoubledExponent exponent ∧ (mark = '+' ∨ mark = '-') ∧ Avoids ['=', '<', '>'] middle ∧
    AllBlank gap ∧ (opening = ['('] ∨ opening = []) ∧ AllBlank gap'

/-- An `e` that ends no word is raised to something with an `x`, and the next relation sign
is one of equality. -/
def NaturalPower (cs : List Char) : Prop :=
  ∃ before gap s t rest, cs = before ++ 'e' :: (gap ++ '^' :: (s ++ 'x' :: (t ++ '=' :: rest))) ∧
    (∀ c ∈ before.getLast?, ¬ ('a' ≤ c ∧ c ≤ 'z')) ∧ AllBlank gap ∧
    Avoids ['=', '<', '>'] s ∧ Avoids ['=', '<', '>'] t

/-- A square with none of the characters between it and what follows. -/
def SquareThen (excluded : List Char) (follows : List Char → Prop) (cs : List Char) : Prop :=
  ∃ before square middle rest, cs = before ++ (square ++ (middle ++ rest)) ∧ Square square ∧
    Avoids excluded middle ∧ follows rest

/-- The left side of the definition of a function of `x`. -/
def FunctionHead (cs : List Char) : Prop :=
  cs = ['y'] ∨ ∃ f argument, cs = f :: argument ∧ (f = 'f' ∨ f = 'g' ∨ f = 'p') ∧
    Argument 'x' argument

/-- A function is defined, and a square stands before the next relation sign. -/
def SquareFunction (cs : List Char) : Prop :=
  ∃ before head gap middle square rest,
    cs = before ++ (head ++ (gap ++ '=' :: (middle ++ (square ++ rest)))) ∧
    StartsWord before ∧ FunctionHead head ∧ AllBlank gap ∧ Avoids ['=', '<', '>'] middle ∧
    Square square

def HeightFunction (cs : List Char) : Prop :=
  ∃ before argument gap rest, cs = before ++ 'h' :: (argument ++ (gap ++ '=' :: rest)) ∧
    StartsWord before ∧ Argument 't' argument ∧ AllBlank gap

/-- The name of a logarithm, which may have a base. -/
def LogarithmName (cs : List Char) : Prop :=
  cs = ['l', 'n'] ∨ cs = ['l', 'o', 'g'] ∨
    ∃ base, cs = 'l' :: 'o' :: 'g' :: '_' :: base ∧ Decimal base

/-- A logarithm of `x` before an equality sign. -/
def LogarithmOfX (cs : List Char) : Prop :=
  ∃ before name argument gap rest, cs = before ++ (name ++ (argument ++ (gap ++ '=' :: rest))) ∧
    StartsWord before ∧ LogarithmName name ∧ Argument 'x' argument ∧ AllBlank gap

end Shapes

section Phrases

def quadraticFormPhrases : List Pattern :=
  [any [cat [word "exponential", manyInLine, word "quadratic"],
     cat [word "quadratic", manyInLine, word "exponential"]],
   phrase ["quadratic", "form"]]

def quadraticPhrases : List Pattern :=
  [phrase ["quadratic", "inequalit"],
   wholly (word "projectile"),
   wholly (anyWord ["thrown", "launched", "tossed", "fired", "kicked"]),
   wholly (cat [word "trajector", anyWord ["y", "ies"]]),
   cat [word "initial", blanks1, optional (cat [word "upward", blanks1]), word "velocity"],
   wholly (cat [anyWord ["maximi", "minimi", "optimi"], sOrZ, letter 'e']),
   wholly (cat [anyWord ["maximum", "minimum"], blanks1, anyWord ["value", "point"]]),
   any [wholly (cat [anyWord ["find", "locate"], blanks1, optional (cat [word "the", blanks1]),
          word "vertex"]),
        wholly (phrase ["vertex", "of"])],
   wholly (word "parabola"),
   cat [word "analy", sOrZ, letter 'e', blanks1, optional (cat [word "the", blanks1]),
     optional (cat [word "quadratic", blanks1]), word "function"],
   wholly (cat [word "factor", optional (anyWord ["ing", "ise", "ize"])]),
   cat [word "complet", anyWord ["e", "ing"], blanks1, optional (cat [word "the", blanks1]),
     word "square"],
   phrase ["vertex", "form"],
   phrase ["quadratic", "formula"],
   phrase ["quadratic", "equation"]]

def financePhrases : List Pattern :=
  [cat [word "compound", optional (word "ed"), blanks1, word "interest"],
   cat [word "compounded", blanks1,
     any [word "annually", cat [word "semi", optional (char '-'), word "annually"],
          word "quarterly", word "monthly", word "weekly", word "daily", word "continuously"]],
   wholly (cat [word "invest", optional (anyWord ["ed", "ment", "s"])]),
   wholly (phrase ["interest", "rate"]),
   cat [word "half", optional (one fun c => Text.isBlank c || c == '-'), word "life"],
   phrase ["doubling", "time"],
   phrase ["exponential", "growth"],
   phrase ["population", "grow"],
   wholly (word "bacteria"),
   cat [word "growth", blanks1, anyWord ["rate", "model"]],
   phrase ["exponential", "decay"],
   word "radioactive",
   cat [word "decay", blanks1, anyWord ["rate", "model"]],
   word "depreciat"]

end Phrases

section Looks

variable (cs : List Char)

/-- An inequality of a power. -/
def LooksOrdered : Prop :=
  PowerThen PowerBase StartsWithOrder cs ∨ (phrase ["exponential", "inequalit"]).Within cs

/-- An exponential in quadratic form. -/
def LooksDoubled : Prop :=
  DoubledPower cs ∨ ∃ p ∈ quadraticFormPhrases, p.Within cs

/-- An equation of a power. -/
def LooksPower : Prop :=
  NaturalPower cs ∨ PowerThen DigitBase StartsWithEquals cs ∨
    (phrase ["exponential", "equation"]).Within cs

def LooksLogarithmic : Prop :=
  LogarithmOfX cs ∨ (phrase ["logarithmic", "equation"]).Within cs

def LooksQuadratic : Prop :=
  SquareThen ['=', '<', '>', '!'] StartsWithInequality cs ∨
    SquareThen ['<', '>', '!'] StartsWithEquals cs ∨ SquareFunction cs ∨ HeightFunction cs ∨
    ∃ p ∈ quadraticPhrases, p.Within cs

def LooksFinancial : Prop :=
  ∃ p ∈ financePhrases, p.Within cs

/-- The text looks like a kind that is not linear. -/
def LooksOther : Prop :=
  LooksOrdered cs ∨ LooksDoubled cs ∨ LooksQuadratic cs ∨ LooksPower cs ∨ LooksFinancial cs ∨
    LooksLogarithmic cs

end Looks

variable {before taken rest cs : List Char}

@[simp] theorem takes_times : times.Takes before taken rest ↔ Times taken := by
  simp only [times, cat, takes_seq, takes_blanks, takes_optional, takes_char, Times]
  constructor
  · rintro ⟨gap, _, rfl, hgap, star, gap', rfl, hstar, hgap'⟩
    exact ⟨gap, star, gap', rfl, hgap, hstar, hgap'⟩
  · rintro ⟨gap, star, gap', rfl, hgap, hstar, hgap'⟩
    exact ⟨gap, _, rfl, hgap, star, gap', rfl, hstar, hgap'⟩

@[simp] theorem takes_exponentX : exponentX.Takes before taken rest ↔ RaisedToX taken := by
  simp only [exponentX, exponentOpening, cat, takes_seq, takes_blanks, takes_char,
    takes_optional, RaisedToX]
  constructor
  · rintro ⟨_, _, rfl, ⟨gap, _, rfl, hgap, _, _, rfl, rfl, gap', opening, rfl, hgap', hopening⟩,
      s, _, rfl, hs, _, _, rfl, rfl, t, _, rfl, ht, closing, gap'', rfl, hclosing, hgap''⟩
    exact ⟨gap, gap', opening ++ s ++ 'x' :: (t ++ closing), gap'', by simp, hgap, hgap',
      ⟨opening, s, t, closing, rfl, hopening.symm, hs, ht, hclosing.symm⟩, hgap''⟩
  · rintro ⟨gap, gap', _, gap'', rfl, hgap, hgap', ⟨opening, s, t, closing, rfl, hopening, hs, ht,
      hclosing⟩, hgap''⟩
    exact ⟨gap ++ '^' :: (gap' ++ opening), s ++ 'x' :: (t ++ (closing ++ gap'')), by simp,
      ⟨gap, _, rfl, hgap, ['^'], _, rfl, rfl, gap', _, rfl, hgap', hopening.symm⟩,
      s, _, rfl, hs, ['x'], _, rfl, rfl, t, _, rfl, ht, closing, gap'', rfl, hclosing.symm,
      hgap''⟩

@[simp] theorem takes_exponentTwoX :
    exponentTwoX.Takes before taken rest ↔ DoubledExponent taken := by
  simp only [exponentTwoX, cat, takes_seq, takes_blanks, takes_char, takes_times, DoubledExponent]
  constructor
  · rintro ⟨_, _, rfl, rfl, gap, _, rfl, hgap, _, _, rfl, rfl, gap', _, rfl, hgap', _, _, rfl, rfl,
      star, _, rfl, hstar, _, _, rfl, rfl, gap'', _, rfl, hgap'', _, gap₃, rfl, rfl, hgap₃⟩
    exact ⟨gap, gap', star, gap'', gap₃, by simp, hgap, hgap', hstar, hgap'', hgap₃⟩
  · rintro ⟨gap, gap', star, gap'', gap₃, rfl, hgap, hgap', hstar, hgap'', hgap₃⟩
    exact ⟨['^'], _, rfl, rfl, gap, _, rfl, hgap, ['('], _, rfl, rfl, gap', _, rfl, hgap', ['2'], _,
      rfl, rfl, star, _, rfl, hstar, ['x'], _, rfl, rfl, gap'', _, rfl, hgap'', [')'], gap₃, rfl,
      rfl, hgap₃⟩

@[simp] theorem takes_argument {v : Char} :
    (argument v).Takes before taken rest ↔ Argument v taken := by
  simp only [argument, cat, takes_seq, takes_blanks, takes_char, Argument]
  constructor
  · rintro ⟨gap, _, rfl, hgap, _, _, rfl, rfl, gap', _, rfl, hgap', _, _, rfl, rfl, gap'', _, rfl,
      hgap'', rfl⟩
    exact ⟨gap, gap', gap'', by simp, hgap, hgap', hgap''⟩
  · rintro ⟨gap, gap', gap'', rfl, hgap, hgap', hgap''⟩
    exact ⟨gap, _, rfl, hgap, ['('], _, rfl, rfl, gap', _, rfl, hgap', [v], _, rfl, rfl, gap'', _,
      rfl, hgap'', rfl⟩

@[simp] theorem takes_squared : (squared 'x').Takes before taken rest ↔ Square taken := by
  simp only [squared, cat, takes_seq, takes_blanks, takes_char, Square]
  constructor
  · rintro ⟨_, _, rfl, rfl, gap, _, rfl, hgap, _, _, rfl, rfl, gap', _, rfl, hgap', rfl⟩
    exact ⟨gap, gap', by simp, hgap, hgap'⟩
  · rintro ⟨gap, gap', rfl, hgap, hgap'⟩
    exact ⟨['x'], _, rfl, rfl, gap, _, rfl, hgap, ['^'], _, rfl, rfl, gap', _, rfl, hgap', rfl⟩

theorem begins_inequalitySign : inequalitySign.Begins before rest ↔ StartsWithInequality rest := by
  simp only [Begins, takes_inequalitySign]
  constructor
  · rintro ⟨_, left, rfl, rfl | rfl | rfl | rfl | rfl⟩
    · exact Or.inl ⟨'<', '=' :: left, rfl, Or.inl rfl⟩
    · exact Or.inl ⟨'>', '=' :: left, rfl, Or.inr rfl⟩
    · exact Or.inr ⟨left, rfl⟩
    · exact Or.inl ⟨'<', left, rfl, Or.inl rfl⟩
    · exact Or.inl ⟨'>', left, rfl, Or.inr rfl⟩
  · rintro (⟨_, left, rfl, rfl | rfl⟩ | ⟨left, rfl⟩)
    · exact ⟨['<'], left, rfl, by simp⟩
    · exact ⟨['>'], left, rfl, by simp⟩
    · exact ⟨['!', '='], left, rfl, by simp⟩

theorem begins_char {c : Char} : (char c).Begins before rest ↔ ∃ left, rest = c :: left := by
  simp [Begins]

theorem within_power_iff {p q : Pattern} {isBase : List Char → Char → Prop}
    {follows : List Char → Prop}
    (hp : ∀ before s left, p.Takes before s left ↔ ∃ c, s = [c] ∧ isBase before c)
    (hq : ∀ before rest, q.Begins before rest ↔ follows rest) :
    (seq p (seq exponentX q)).Within cs ↔ PowerThen isBase follows cs := by
  simp only [within_iff_begins, begins_seq, hp, takes_exponentX, RaisedToX, hq, PowerThen]
  constructor
  · rintro ⟨before, _, rfl, _, _, rfl, ⟨c, rfl, hc⟩, _, rest, rfl, ⟨gap, gap', power, gap'', rfl,
      hgap, hgap', hpower, hgap''⟩, hrest⟩
    exact ⟨before, c, gap, gap', power, gap'', rest, by simp, hc, hgap, hgap', hpower, hgap'',
      hrest⟩
  · rintro ⟨before, c, gap, gap', power, gap'', rest, rfl, hc, hgap, hgap', hpower, hgap'', hrest⟩
    exact ⟨before, _, rfl, [c], _, rfl, ⟨c, rfl, hc⟩, gap ++ '^' :: (gap' ++ power ++ gap''), rest,
      by simp, ⟨gap, gap', power, gap'', rfl, hgap, hgap', hpower, hgap''⟩, hrest⟩

theorem within_doubledPower_iff : (cat [exponentTwoX, sign, manyExcept ['=', '<', '>'], char '^',
    blanks, optional (char '('), blanks, char 'x']).Within cs ↔ DoubledPower cs := by
  simp only [within_iff_begins, cat, begins_seq, takes_exponentTwoX, takes_sign, takes_manyExcept,
    takes_char, takes_blanks, takes_optional, begins_char, DoubledPower, Avoids]
  constructor
  · rintro ⟨before, _, rfl, exponent, _, rfl, hexponent, _, _, rfl, hmark, middle, _, rfl, hmiddle,
      _, _, rfl, rfl, gap, _, rfl, hgap, opening, _, rfl, hopening, gap', _, rfl, hgap', rest, rfl⟩
    rcases hmark with rfl | rfl
    · exact ⟨before, exponent, '+', middle, gap, opening, gap', rest, rfl, hexponent, Or.inl rfl,
        hmiddle, hgap, hopening, hgap'⟩
    · exact ⟨before, exponent, '-', middle, gap, opening, gap', rest, rfl, hexponent, Or.inr rfl,
        hmiddle, hgap, hopening, hgap'⟩
  · rintro ⟨before, exponent, mark, middle, gap, opening, gap', rest, rfl, hexponent, hmark,
      hmiddle, hgap, hopening, hgap'⟩
    exact ⟨before, _, rfl, exponent, _, rfl, hexponent, [mark], _, rfl, by simpa using hmark, middle,
      _, rfl, hmiddle, ['^'], _, rfl, rfl, gap, _, rfl, hgap, opening, _, rfl, hopening, gap', _,
      rfl, hgap', rest, rfl⟩

theorem within_squareThen_iff {excluded : List Char} {q : Pattern} {follows : List Char → Prop}
    (hq : ∀ before rest, q.Begins before rest ↔ follows rest) :
    (seq (squared 'x') (seq (manyExcept excluded) q)).Within cs ↔
      SquareThen excluded follows cs := by
  simp only [within_iff_begins, begins_seq, takes_squared, takes_manyExcept, hq, SquareThen, Avoids]
  constructor
  · rintro ⟨before, _, rfl, square, _, rfl, hsquare, middle, rest, rfl, hmiddle, hrest⟩
    exact ⟨before, square, middle, rest, rfl, hsquare, hmiddle, hrest⟩
  · rintro ⟨before, square, middle, rest, rfl, hsquare, hmiddle, hrest⟩
    exact ⟨before, _, rfl, square, _, rfl, hsquare, middle, rest, rfl, hmiddle, hrest⟩

theorem takes_boundary_seq {p : Pattern} (hp : ∀ before s left, p.Takes before s left →
    s.head?.any Text.isWordChar = true) : (seq boundary p).Takes before taken rest ↔
      StartsWord before ∧ p.Takes before taken rest := by
  simp only [Takes, StartsWord]
  constructor
  · rintro ⟨_, s, rfl, ⟨rfl, hbefore⟩, hs⟩
    rw [List.append_nil] at hs
    have hword := hp _ _ _ hs
    obtain ⟨c, s, rfl⟩ := List.exists_cons_of_ne_nil (l := s) (by rintro rfl; simp at hword)
    exact ⟨by simpa [show Text.isWordChar c = true from hword] using hbefore, hs⟩
  · rintro ⟨hbefore, hs⟩
    have hword := hp _ _ _ hs
    obtain ⟨c, s, rfl⟩ := List.exists_cons_of_ne_nil (l := taken) (by rintro rfl; simp at hword)
    refine ⟨[], c :: s, rfl, ⟨rfl, ?_⟩, by rwa [List.append_nil]⟩
    rw [hbefore]
    simpa using hword

theorem begins_boundary_seq {p : Pattern} (hp : ∀ before s left, p.Takes before s left →
    s.head?.any Text.isWordChar = true) : (seq boundary p).Begins before rest ↔
      StartsWord before ∧ p.Begins before rest := by
  simp only [Begins, takes_boundary_seq hp]
  constructor
  · rintro ⟨s, left, rfl, hbefore, hs⟩
    exact ⟨hbefore, s, left, rfl, hs⟩
  · rintro ⟨hbefore, s, left, rfl, hs⟩
    exact ⟨s, left, rfl, hbefore, hs⟩

theorem takes_functionHead : functionHead.Takes before taken rest ↔
    StartsWord before ∧ FunctionHead taken := by
  simp only [functionHead, any, cat, takes_alt]
  rw [takes_boundary_seq, takes_boundary_seq]
  · simp only [takes_seq, takes_anyOf, takes_char, takes_argument, FunctionHead, List.mem_cons,
      List.not_mem_nil, or_false, ← and_or_left]
    refine and_congr_right fun _ => ?_
    constructor
    · rintro (⟨_, argument, rfl, ⟨f, hf, rfl⟩, hargument⟩ | rfl)
      · exact Or.inr ⟨f, argument, rfl, hf, hargument⟩
      · exact Or.inl rfl
    · rintro (rfl | ⟨f, argument, rfl, hf, hargument⟩)
      · exact Or.inr rfl
      · exact Or.inl ⟨[f], argument, rfl, ⟨f, hf, rfl⟩, hargument⟩
  · rintro before _ left hy
    rw [takes_char.mp hy]
    decide
  · rintro before _ left ⟨_, t, rfl, hf, -⟩
    have hall : ∀ c ∈ ['f', 'g', 'p'], Text.isWordChar c = true :=
      List.all_eq_true.mp (by decide)
    obtain ⟨c, hc, rfl⟩ := takes_anyOf.mp hf
    simpa using hall c hc

theorem Avoids.of_allBlank {excluded gap : List Char} (hgap : AllBlank gap)
    (h : excluded.all (fun c => !Text.isBlank c) = true) : Avoids excluded gap := by
  intro c hc hmem
  have := List.all_eq_true.mp h c hmem
  rw [hgap c hc] at this
  cases this

theorem Avoids.append {excluded s t : List Char} (hs : Avoids excluded s) (ht : Avoids excluded t) :
    Avoids excluded (s ++ t) :=
  List.forall_mem_append.mpr ⟨hs, ht⟩

theorem within_squareFunction_iff : (cat [functionHead, equals, manyExcept ['=', '<', '>'],
    squared 'x']).Within cs ↔ SquareFunction cs := by
  rw [within_iff_begins]
  simp only [cat, begins_seq, takes_functionHead, equals, takes_seq, takes_blanks,
    takes_char, takes_manyExcept]
  constructor
  · rintro ⟨before, _, rfl, head, _, rfl, ⟨hbefore, hhead⟩, _, _, rfl, ⟨gap, _, rfl, hgap, _, gap',
      rfl, rfl, hgap'⟩, middle, _, rfl, hmiddle, square, rest, rfl, hsquare⟩
    exact ⟨before, head, gap, gap' ++ middle, square, rest, by simp, hbefore, hhead, hgap,
      .append (.of_allBlank hgap' (by decide)) hmiddle, takes_squared.mp hsquare⟩
  · rintro ⟨before, head, gap, middle, square, rest, rfl, hbefore, hhead, hgap, hmiddle, hsquare⟩
    exact ⟨before, _, rfl, head, _, rfl, ⟨hbefore, hhead⟩, gap ++ ['='], middle ++ (square ++ rest),
      by simp, ⟨gap, ['='], rfl, hgap, ['='], [], rfl, rfl, allBlank_nil⟩, middle, _, rfl, hmiddle,
      square, rest, rfl, takes_squared.mpr hsquare⟩

theorem begins_char_seq {c : Char} {p : Pattern} : (seq (char c) p).Begins before rest ↔
    ∃ left, rest = c :: left ∧ p.Begins (before ++ [c]) left := by
  simp [begins_seq]

theorem head?_of_takes_seq {p q : Pattern} (hp : ∀ before s left, p.Takes before s left →
    s.head?.any Text.isWordChar = true) (h : (seq p q).Takes before taken rest) :
    taken.head?.any Text.isWordChar = true := by
  obtain ⟨s, t, rfl, hs, -⟩ := h
  have hword := hp _ _ _ hs
  obtain ⟨c, s, rfl⟩ := List.exists_cons_of_ne_nil (l := s) (by rintro rfl; simp at hword)
  exact hword

theorem head?_of_takes_char {c : Char} (hc : Text.isWordChar c = true)
    (h : (char c).Takes before taken rest) : taken.head?.any Text.isWordChar = true := by
  rw [takes_char.mp h]
  simpa using hc

theorem within_heightHead_iff : heightHead.Within cs ↔ HeightFunction cs := by
  rw [within_iff_begins, heightHead]
  simp only [cat, begins_boundary_seq fun _ _ _ => head?_of_takes_seq fun _ _ _ =>
      head?_of_takes_char (c := 'h') (by decide),
    begins_char_seq]
  simp only [begins_seq, takes_argument, takes_blanks, begins_char, HeightFunction]
  constructor
  · rintro ⟨before, _, rfl, hbefore, _, rfl, argument, _, rfl, hargument, gap, _, rfl, hgap, rest,
      rfl⟩
    exact ⟨before, argument, gap, rest, rfl, hbefore, hargument, hgap⟩
  · rintro ⟨before, argument, gap, rest, rfl, hbefore, hargument, hgap⟩
    exact ⟨before, _, rfl, hbefore, _, rfl, argument, _, rfl, hargument, gap, _, rfl, hgap, rest,
      rfl⟩

theorem takes_startOrOther : (any [start, one fun c => !('a' ≤ c && c ≤ 'z')]).Takes before taken
    rest ↔ taken = [] ∧ before = [] ∨ ∃ c, taken = [c] ∧ ¬ ('a' ≤ c ∧ c ≤ 'z') := by
  simp only [any, Takes, Bool.not_eq_true', ← Bool.not_eq_true, Bool.and_eq_true, decide_eq_true_eq]

theorem within_naturalPower_iff :
    (cat [any [start, one fun c => !('a' ≤ c && c ≤ 'z')], char 'e', exponentOpening,
      manyExcept ['=', '<', '>'], char 'x', manyExcept ['=', '<', '>'], char '=']).Within cs ↔
      NaturalPower cs := by
  rw [within_iff_begins]
  simp only [cat, begins_seq, takes_startOrOther, exponentOpening, takes_seq, takes_char,
    takes_blanks, takes_optional, takes_manyExcept, begins_char]
  constructor
  · rintro ⟨before, _, rfl, first, _, rfl, hfirst, _, _, rfl, rfl, _, _, rfl, ⟨gap, _, rfl, hgap, _,
      _, rfl, rfl, gap', opening, rfl, hgap', hopening⟩, s, _, rfl, hs, _, _, rfl, rfl, t, _, rfl,
      ht, rest, rfl⟩
    refine ⟨before ++ first, gap, gap' ++ (opening ++ s), t, rest, by simp, ?_, hgap,
      .append (.of_allBlank hgap' (by decide)) (.append ?_ hs), ht⟩
    · rcases hfirst with ⟨rfl, rfl⟩ | ⟨c, rfl, hc⟩
      · simp
      · simpa using hc
    · rcases hopening with rfl | rfl <;> simp [Avoids]
  · rintro ⟨before, gap, s, t, rest, rfl, hbefore, hgap, hs, ht⟩
    rcases List.eq_nil_or_concat before with rfl | ⟨before, c, rfl⟩
    · exact ⟨[], _, rfl, [], _, rfl, Or.inl ⟨rfl, rfl⟩, ['e'], _, rfl, rfl, gap ++ ['^'], _, by simp,
        ⟨gap, ['^'], rfl, hgap, ['^'], [], rfl, rfl, [], [], rfl, allBlank_nil, Or.inr rfl⟩, s, _,
        rfl, hs, ['x'], _, rfl, rfl, t, _, rfl, ht, rest, rfl⟩
    · rw [List.concat_eq_append, List.append_assoc]
      exact ⟨before, _, rfl, [c], _, rfl, Or.inr ⟨c, rfl, hbefore c (by simp)⟩, ['e'], _, rfl, rfl,
        gap ++ ['^'], _, by simp, ⟨gap, ['^'], rfl, hgap, ['^'], [], rfl, rfl, [], [], rfl,
        allBlank_nil, Or.inr rfl⟩, s, _, rfl, hs, ['x'], _, rfl, rfl, t, _, rfl, ht, rest, rfl⟩

theorem begins_logarithm_iff {p : Pattern} {isName : List Char → Prop}
    (hp : ∀ before s left, p.Takes before s left ↔ isName s) :
    (seq p (cat [argument 'x', blanks, char '='])).Begins before rest ↔ ∃ name argument gap left,
      rest = name ++ (argument ++ (gap ++ '=' :: left)) ∧ isName name ∧ Argument 'x' argument ∧
        AllBlank gap := by
  simp only [begins_seq, hp, cat, takes_argument, takes_blanks, begins_char]
  constructor
  · rintro ⟨name, _, rfl, hname, argument, _, rfl, hargument, gap, _, rfl, hgap, left, rfl⟩
    exact ⟨name, argument, gap, left, rfl, hname, hargument, hgap⟩
  · rintro ⟨name, argument, gap, left, rfl, hname, hargument, hgap⟩
    exact ⟨name, _, rfl, hname, argument, _, rfl, hargument, gap, _, rfl, hgap, left, rfl⟩

theorem begins_seq_assoc {p q r : Pattern} :
    (seq p (seq q r)).Begins before rest ↔ (seq (seq p q) r).Begins before rest := by
  simp only [begins_seq, takes_seq]
  constructor
  · rintro ⟨s, _, rfl, hs, t, left, rfl, ht, hr⟩
    exact ⟨s ++ t, left, by simp, ⟨s, t, rfl, hs, ht⟩, by simpa using hr⟩
  · rintro ⟨_, left, rfl, ⟨s, t, rfl, hs, ht⟩, hr⟩
    exact ⟨s, _, List.append_assoc .., hs, t, left, rfl, ht, by simpa using hr⟩

theorem takes_log : (text "log").Takes before taken rest ↔ taken = ['l', 'o', 'g'] := by
  simp [text, cat, takes_seq]

theorem takes_ln : (text "ln").Takes before taken rest ↔ taken = ['l', 'n'] := by
  simp [text, cat, takes_seq]

theorem takes_logWithBase : (seq (text "log") (optional (cat [char '_', decimal]))).Takes before
    taken rest ↔ taken = ['l', 'o', 'g'] ∨
      ∃ base, taken = 'l' :: 'o' :: 'g' :: '_' :: base ∧ Decimal base := by
  simp only [takes_seq, takes_log, takes_optional, cat, takes_char, takes_decimal]
  constructor
  · rintro ⟨_, _, rfl, rfl, ⟨_, base, rfl, rfl, hbase⟩ | rfl⟩
    · exact Or.inr ⟨base, rfl, hbase⟩
    · exact Or.inl rfl
  · rintro (rfl | ⟨base, rfl, hbase⟩)
    · exact ⟨['l', 'o', 'g'], [], rfl, rfl, Or.inr rfl⟩
    · exact ⟨['l', 'o', 'g'], '_' :: base, rfl, rfl, Or.inl ⟨['_'], base, rfl, rfl, hbase⟩⟩

theorem within_boundary_seq_iff {p q : Pattern} (hp : ∀ before s left, p.Takes before s left →
    s.head?.any Text.isWordChar = true) : (seq boundary (seq p q)).Within cs ↔
      ∃ before rest, cs = before ++ rest ∧ StartsWord before ∧ (seq p q).Begins before rest := by
  simp only [within_iff_begins, begins_boundary_seq fun _ _ _ => head?_of_takes_seq hp]

theorem within_logarithm_iff :
    ((cat [boundary, text "log", optional (cat [char '_', decimal]), argument 'x', blanks,
        char '=']).Within cs ∨
      (cat [boundary, text "ln", argument 'x', blanks, char '=']).Within cs) ↔
      LogarithmOfX cs := by
  have hlog (before s left : List Char) (h : (text "log").Takes before s left) :
      s.head?.any Text.isWordChar = true := by
    rw [takes_log.mp h]
    decide
  have hln (before s left : List Char) (h : (text "ln").Takes before s left) :
      s.head?.any Text.isWordChar = true := by
    rw [takes_ln.mp h]
    decide
  change (seq boundary (seq (text "log") (seq _ _))).Within cs ∨
    (seq boundary (seq (text "ln") _)).Within cs ↔ _
  rw [within_boundary_seq_iff hlog, within_boundary_seq_iff hln]
  simp only [begins_seq_assoc (p := text "log"),
    begins_logarithm_iff fun _ _ _ => takes_logWithBase, begins_logarithm_iff fun _ _ _ => takes_ln]
  constructor
  · rintro (⟨before, _, rfl, hbefore, name, argument, gap, rest, rfl, hname, hargument, hgap⟩ |
      ⟨before, _, rfl, hbefore, name, argument, gap, rest, rfl, hname, hargument, hgap⟩)
    · exact ⟨before, name, argument, gap, rest, rfl, hbefore, Or.inr hname, hargument, hgap⟩
    · exact ⟨before, name, argument, gap, rest, rfl, hbefore, Or.inl hname, hargument, hgap⟩
  · rintro ⟨before, name, argument, gap, rest, rfl, hbefore, hname | hname, hargument, hgap⟩
    · exact Or.inr ⟨before, _, rfl, hbefore, name, argument, gap, rest, rfl, hname, hargument, hgap⟩
    · exact Or.inl ⟨before, _, rfl, hbefore, name, argument, gap, rest, rfl, hname, hargument, hgap⟩

section Stated

theorem takes_powerBase : (any [one Text.isDigit, cat [boundary, char 'e']]).Takes before taken
    rest ↔ ∃ c, taken = [c] ∧ PowerBase before c := by
  have he (before s left : List Char) (h : (char 'e').Takes before s left) :
      s.head?.any Text.isWordChar = true := head?_of_takes_char (by decide) h
  simp only [any, cat, takes_alt, takes_one, takes_boundary_seq he, takes_char, PowerBase,
    and_or_left, exists_or]
  refine or_congr_right ⟨?_, ?_⟩
  · rintro ⟨hbefore, rfl⟩
    exact ⟨'e', rfl, rfl, hbefore⟩
  · rintro ⟨_, rfl, rfl, hbefore⟩
    exact ⟨hbefore, rfl⟩

theorem PowerThen.of_digit {follows : List Char → Prop} (h : PowerThen DigitBase follows cs) :
    PowerThen PowerBase follows cs := by
  obtain ⟨before, base, gap, gap', power, gap'', rest, hcs, hbase, htail⟩ := h
  exact ⟨before, base, gap, gap', power, gap'', rest, hcs, Or.inl hbase, htail⟩

theorem takes_digitBase : (one Text.isDigit).Takes before taken rest ↔
    ∃ c, taken = [c] ∧ DigitBase before c :=
  takes_one

theorem begins_equals_iff (before rest : List Char) :
    (char '=').Begins before rest ↔ StartsWithEquals rest :=
  begins_char

theorem stated_exponentialInequality_iff : Stated .exponentialInequality cs ↔ LooksOrdered cs := by
  rw [LooksOrdered, ← within_power_iff (fun _ _ _ => takes_powerBase) takes_orderSign_iff]
  exact stated_pair_iff rfl

theorem stated_exponentialQuadratic_iff : Stated .exponentialQuadratic cs ↔ LooksDoubled cs := by
  simp only [Stated, recognizers, LooksDoubled, quadraticFormPhrases, List.mem_cons,
    List.not_mem_nil, or_false, exists_eq_or_imp, exists_eq_left, within_doubledPower_iff]

theorem stated_simpleExponential_iff : Stated .simpleExponential cs ↔
    PowerThen DigitBase StartsWithEquals cs ∨ (phrase ["exponential", "equation"]).Within cs := by
  rw [← within_power_iff (fun _ _ _ => takes_digitBase) begins_equals_iff]
  exact stated_pair_iff rfl

theorem stated_naturalExponential_iff : Stated .naturalExponential cs ↔ NaturalPower cs := by
  simp only [Stated, recognizers, List.mem_singleton, exists_eq_left, within_naturalPower_iff]

theorem stated_power_iff :
    Stated .naturalExponential cs ∨ Stated .simpleExponential cs ↔ LooksPower cs := by
  rw [stated_naturalExponential_iff, stated_simpleExponential_iff, LooksPower]

theorem stated_logarithmicEquation_iff : Stated .logarithmicEquation cs ↔ LooksLogarithmic cs := by
  simp only [Stated, recognizers, LooksLogarithmic, List.mem_cons,
    List.not_mem_nil, or_false, exists_eq_or_imp, exists_eq_left, ← within_logarithm_iff, or_assoc]

def quadraticKinds : List Kind :=
  [.quadraticInequality, .projectileMotion, .quadraticOptimization, .factoringQuadratic,
    .completingSquare, .quadraticFormula, .standardQuadratic]

/-- The recognizers of the quadratic kinds that are no words. -/
def quadraticShapes : List Pattern :=
  [cat [squared 'x', manyExcept ['=', '<', '>', '!'], inequalitySign],
   cat [squared 'x', manyExcept ['<', '>', '!'], char '='],
   cat [functionHead, equals, manyExcept ['=', '<', '>'], squared 'x'],
   heightHead]

theorem mem_quadratic_iff {p : Pattern} :
    p ∈ quadraticKinds.flatMap recognizers ↔ p ∈ quadraticShapes ++ quadraticPhrases := by
  have hsubset : quadraticKinds.flatMap recognizers ⊆ quadraticShapes ++ quadraticPhrases := by
    simp only [quadraticKinds, recognizers, quadraticShapes, quadraticPhrases, List.flatMap_cons,
      List.flatMap_nil, List.cons_append, List.nil_append, List.cons_subset, List.nil_subset,
      List.mem_cons, true_or, or_true, and_true]
  have hsubset' : quadraticShapes ++ quadraticPhrases ⊆ quadraticKinds.flatMap recognizers := by
    simp only [quadraticKinds, recognizers, quadraticShapes, quadraticPhrases, List.flatMap_cons,
      List.flatMap_nil, List.cons_append, List.nil_append, List.cons_subset, List.nil_subset,
      List.mem_cons, true_or, or_true, and_true]
  exact ⟨fun h => hsubset h, fun h => hsubset' h⟩

theorem exists_stated_iff {family : Family} {kinds : List Kind}
    (h : ∀ kind : Kind, kind.family = family ↔ kind ∈ kinds) :
    (∃ kind, kind.family = family ∧ Stated kind cs) ↔
      ∃ p ∈ kinds.flatMap recognizers, p.Within cs := by
  simp only [h, Stated, List.mem_flatMap]
  constructor
  · rintro ⟨kind, hkind, p, hp, hwithin⟩
    exact ⟨p, ⟨kind, hkind, hp⟩, hwithin⟩
  · rintro ⟨p, ⟨kind, hkind, hp⟩, hwithin⟩
    exact ⟨kind, hkind, p, hp, hwithin⟩

theorem exists_stated_quadratic_iff :
    (∃ kind, kind.family = .quadratic ∧ Stated kind cs) ↔ LooksQuadratic cs := by
  have hkinds (kind : Kind) : kind.family = .quadratic ↔ kind ∈ quadraticKinds := by
    cases kind <;> decide
  rw [exists_stated_iff hkinds, LooksQuadratic, ← within_squareFunction_iff,
    ← within_heightHead_iff, ← within_squareThen_iff (fun _ _ => begins_inequalitySign),
    ← within_squareThen_iff begins_equals_iff]
  simp only [mem_quadratic_iff, List.mem_append, or_and_right, exists_or, quadraticShapes,
    List.mem_cons, List.not_mem_nil, or_false, exists_eq_left, or_assoc]
  rfl

theorem exists_stated_finance_iff :
    (∃ kind, kind.family = .finance ∧ Stated kind cs) ↔ LooksFinancial cs := by
  have hkinds (kind : Kind) : kind.family = .finance ↔
      kind ∈ [Kind.compoundInterest, .halfLife, .exponentialGrowth, .exponentialDecay] := by
    cases kind <;> decide
  rw [exists_stated_iff hkinds]
  rfl

/-- A kind that is not linear is stated if and only if the text looks like one. -/
theorem exists_stated_other_iff :
    (∃ kind, kind.family ≠ .linear ∧ Stated kind cs) ↔ LooksOther cs := by
  rw [LooksOther, ← stated_exponentialInequality_iff, ← stated_exponentialQuadratic_iff,
    ← stated_power_iff, ← stated_logarithmicEquation_iff, ← exists_stated_quadratic_iff,
    ← exists_stated_finance_iff]
  constructor
  · rintro ⟨kind, hkind, h⟩
    cases hfamily : kind.family with
    | linear => exact absurd hfamily hkind
    | quadratic => exact .inr (.inr (.inl ⟨kind, hfamily, h⟩))
    | finance => exact .inr (.inr (.inr (.inr (.inl ⟨kind, hfamily, h⟩))))
    | exponential =>
        cases kind with
        | exponentialInequality => exact .inl h
        | exponentialQuadratic => exact .inr (.inl h)
        | naturalExponential => exact .inr (.inr (.inr (.inl (.inl h))))
        | simpleExponential => exact .inr (.inr (.inr (.inl (.inr h))))
        | logarithmicEquation => exact .inr (.inr (.inr (.inr (.inr h))))
        | _ => cases hfamily
  · rintro (h | h | ⟨kind, hkind, h⟩ | (h | h) | ⟨kind, hkind, h⟩ | h)
    · exact ⟨_, by decide, h⟩
    · exact ⟨_, by decide, h⟩
    · exact ⟨kind, by simp [hkind], h⟩
    · exact ⟨_, by decide, h⟩
    · exact ⟨_, by decide, h⟩
    · exact ⟨kind, by simp [hkind], h⟩
    · exact ⟨_, by decide, h⟩

end Stated

end EquationTutor.Reading
