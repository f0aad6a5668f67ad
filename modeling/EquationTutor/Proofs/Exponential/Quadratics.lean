import EquationTutor.Proofs.Double.IntegerOrder
import EquationTutor.Proofs.Exponential.LastDigit
import EquationTutor.Proofs.Polynomial.Faithful
import EquationTutor.Proofs.Reading.ExponentTexts
import EquationTutor.Solve.Required

namespace EquationTutor

open PolynomialText Reading Pattern

/-- `base^(2x)`, the power times a factor and a constant on the left, a number on the right. Of
the terms only what stands before a variable counts. -/
structure PowerQuadratic where
  base : Unsigned
  middle : Term
  constant : Term
  number : Term
  isSome_middle : middle.sign.isSome = true
  isSome_sign : constant.sign.isSome = true
  isSome_constant : constant.factor.isSome = true
  isSome_number : number.factor.isSome = true

namespace PowerQuadratic

variable (e : PowerQuadratic)

def tokens : List (List Char) :=
  e.base.chars :: ['^'] :: ['('] :: ['2'] :: ['x'] :: [')'] :: (e.middle.product ++
    (e.base.power ++ (e.constant.lead ++ ['='] :: e.number.lead)))

/-- Whether the text is the equation, with any blanks around its tokens. -/
def Writes (text : String) : Prop :=
  Spaced Text.isBlank e.tokens text.toList

/-- The factor that is read before the first base. -/
def firstFactor : Term :=
  ⟨none, e.base.front, .linear, by simp⟩

/-- The factor that is read before the second base. -/
def secondFactor : Term :=
  if e.middle.factor.isSome then e.middle else ⟨e.middle.sign, e.base.front, .linear, by simp⟩

def secondBase : Unsigned :=
  if e.middle.factor.isSome then e.base else e.base.back

/-- The parameters that are read. -/
def record {α : Type} [Scalar α] : Params α :=
  (((Params.empty.insertNumber "a" (e.firstFactor.coefficient : α)).insertNumber "base"
    e.base.back.value).insertNumber "b" e.secondFactor.coefficient).insertNumber "c"
      (e.constant.coefficient - e.number.coefficient)

variable {e}

theorem mem_tokens {s : List Char} (h : s ∈ e.tokens) :
    s ≠ [] ∧ ∀ c ∈ s, c ∈ '(' :: ')' :: '=' :: powerAlphabet := by
  have hpower (hs : s ≠ [] ∧ ∀ c ∈ s, c ∈ powerAlphabet) :
      s ≠ [] ∧ ∀ c ∈ s, c ∈ '(' :: ')' :: '=' :: powerAlphabet :=
    ⟨hs.1, fun c hc => by simp [hs.2 c hc]⟩
  have hone (d : Char) (hd : d ∈ '(' :: ')' :: '=' :: powerAlphabet) :
      [d] ≠ [] ∧ ∀ c ∈ [d], c ∈ '(' :: ')' :: '=' :: powerAlphabet :=
    ⟨by simp, by simpa using hd⟩
  simp only [tokens, List.mem_append, List.mem_cons] at h
  rcases h with rfl | rfl | rfl | rfl | rfl | rfl | h | h | h | rfl | h
  · exact hpower (mem_powerAlphabet_of_power (n := e.base) (by simp [Unsigned.power]))
  · exact hone _ (by decide)
  · exact hone _ (by decide)
  · exact hone _ (by decide)
  · exact hone _ (by decide)
  · exact hone _ (by decide)
  · exact hpower (mem_powerAlphabet_of_product h)
  · exact hpower (mem_powerAlphabet_of_power h)
  · exact hpower (mem_powerAlphabet_of_lead h)
  · exact hone _ (by decide)
  · exact hpower (mem_powerAlphabet_of_lead h)

theorem spelled_normalize {text : String} (h : e.Writes text) :
    Spelled (· == ' ') e.tokens (normalize text).toList := by
  have hall : ∀ c ∈ '(' :: ')' :: '=' :: powerAlphabet,
      c ∈ '(' :: ')' :: (powerAlphabet ++ relationAlphabet) :=
    List.all_iff_forall_prop.mp (by decide)
  refine spelled_normalize_of_powers
    (fun s hs => ⟨(mem_tokens hs).1, fun c hc => hall c ((mem_tokens hs).2 c hc)⟩) ?_ h
  simp only [tokens, List.flatten_cons, List.flatten_append, List.count_append, count_star_chars,
    count_star_product, count_star_power, count_star_lead]
  split <;> decide

/-- The exponent `2x` in parentheses behind a base. -/
structure ExponentTwoXAt (cs : List Char) : Prop where
  exists_eq : ∃ g₁ g₂ g₃ g₄ g₅ g₆,
    cs = g₁ ++ '^' :: (g₂ ++ '(' :: (g₃ ++ '2' :: (g₄ ++ 'x' :: (g₅ ++ ')' :: g₆)))) ∧
    ∀ g ∈ [g₁, g₂, g₃, g₄, g₅, g₆], ∀ c ∈ g, c = ' '

/-- The text of the equation, taken apart. -/
structure TextAt (e : PowerQuadratic) (text : List Char) where
  square : List Char
  lead : List Char
  gap : List Char
  star : List Char
  exponent : List Char
  constant : List Char
  constantGap : List Char
  spaces : List Char
  number : List Char
  rest : List Char
  text_eq : text = e.base.chars ++ (square ++ (lead ++ (gap ++ (star ++ (e.base.chars ++
    (exponent ++ (constant ++ (constantGap ++ '=' :: (spaces ++ (number ++ rest))))))))))
  squareAt : ExponentTwoXAt square
  multiplies : e.middle.Multiplies lead gap star
  exponentAt : ExponentAt exponent
  constant_leads : e.constant.Leads constant constantGap
  eq_space : ∀ c ∈ spaces, c = ' '
  number_leads : e.number.Leads number rest
  spelled : Spelled (· == ' ') e.tokens text

theorem nonempty_textAt {text : List Char} (h : Spelled (· == ' ') e.tokens text) :
    Nonempty (TextAt e text) := by
  have hspelled := h
  obtain ⟨g₁, _, rfl, h₁, g₂, _, rfl, h₂, g₃, _, rfl, h₃, g₄, _, rfl, h₄, g₅, _, rfl, h₅, g₆, _,
    rfl, h₆, h⟩ := h
  obtain ⟨lead, gap, star, _, rfl, hmiddle, h⟩ := e.middle.exists_multiplies_of_spelled h
  obtain ⟨exponent, _, rfl, hexponent, h⟩ := exists_exponentAt_of_spelled h
  obtain ⟨constant, constantGap, _, rfl, hconstant, spaces, _, rfl, hspaces, h⟩ :=
    e.constant.exists_leads_of_spelled_lead h
  rw [← List.append_nil e.number.lead] at h
  obtain ⟨number, rest, _, rfl, hnumber, rfl⟩ := e.number.exists_leads_of_spelled_lead h
  refine ⟨⟨g₁ ++ '^' :: (g₂ ++ '(' :: (g₃ ++ '2' :: (g₄ ++ 'x' :: (g₅ ++ ')' :: g₆)))), lead, gap,
    star, exponent, constant, constantGap, spaces, number, rest, by simp,
    ⟨g₁, g₂, g₃, g₄, g₅, g₆, rfl, ?_⟩, hmiddle, hexponent, hconstant, by simpa using hspaces,
    hnumber, hspelled⟩⟩
  simp only [beq_iff_eq] at h₁ h₂ h₃ h₄ h₅ h₆
  simpa using ⟨h₁, h₂, h₃, h₄, h₅, h₆⟩

theorem ExponentTwoXAt.caretAhead {square : List Char} (h : ExponentTwoXAt square)
    (rest : List Char) : CaretAhead (square ++ rest) := by
  obtain ⟨g₁, g₂, g₃, g₄, g₅, g₆, rfl, hspaces⟩ := h.exists_eq
  exact ⟨g₁, g₂ ++ '(' :: (g₃ ++ '2' :: (g₄ ++ 'x' :: (g₅ ++ ')' :: g₆))) ++ rest, by simp,
    hspaces g₁ (by simp)⟩

theorem best_exponentTwoX {square before rest : List Char} {g : Groups}
    (h : ExponentTwoXAt square) (hrest : ∀ c ∈ rest.head?, Text.isBlank c = false) :
    (cat [blanks, exponentTwoX]).Best before square rest g g := by
  obtain ⟨g₁, g₂, g₃, g₄, g₅, g₆, rfl, hspaces⟩ := h.exists_eq
  simp only [List.forall_mem_cons] at hspaces
  obtain ⟨h₁, h₂, h₃, h₄, h₅, h₆, -⟩ := hspaces
  have hhead (d : Char) (hd : Text.isBlank d = false) (cs : List Char) :
      ∀ c ∈ (d :: cs).head?, Text.isBlank c = false := by
    intro c hc
    obtain rfl : d = c := by simpa using hc
    exact hd
  have hblanks {sp : List Char} (hsp : ∀ c ∈ sp, c = ' ') {rest : List Char}
      (hrest : ∀ c ∈ rest.head?, Text.isBlank c = false) (before : List Char) :
      blanks.Best before sp rest g g :=
    best_blanks (allBlank_of_eq_space hsp) hrest
  exact best_seq (hblanks h₁ (hhead '^' (by decide) _) _)
    (best_seq (s := ['^']) best_char (best_seq (hblanks h₂ (hhead '(' (by decide) _) _)
      (best_seq (s := ['(']) best_char (best_seq (hblanks h₃ (hhead '2' (by decide) _) _)
        (best_seq (s := ['2']) best_char (best_seq (best_times h₄ (startsWithVariable_x rfl))
          (best_seq (s := ['x']) best_char (best_seq (hblanks h₅ (hhead ')' (by decide) _) _)
            (best_seq (s := [')']) best_char (hblanks h₆ hrest _))))))))))

/-- The sign and the factor before the second base. -/
def factorPart : Pattern :=
  cat [sign, blanks, optional Reading.number]

/-- What the shape takes behind the second base. -/
def endPart : Pattern :=
  cat [exponentX, optional (group 5 (cat [sign, blanks, Reading.number])), equals,
    group 6 signedNumber]

namespace TextAt

variable {text : List Char} (l : TextAt e text)
include l

/-- What is taken behind the second base. -/
def behindBase : List Char :=
  l.exponent ++ (l.constant ++ ((l.constantGap ++ '=' :: l.spaces) ++ l.number))

theorem text_eq_behindBase : text = e.base.chars ++ (l.square ++ ((l.lead ++ (l.gap ++ (l.star ++
    (e.base.chars ++ l.behindBase)))) ++ l.rest)) := by
  refine l.text_eq.trans ?_
  simp [behindBase]

theorem caretAhead (rest : List Char) : CaretAhead (l.behindBase ++ rest) := by
  rw [behindBase, List.append_assoc]
  exact l.exponentAt.caretAhead _

theorem best_behindBase (before : List Char) (g : Groups) : ∃ i j,
    endPart.Best before l.behindBase l.rest g
      (g ++ [(5, ⟨i, l.constant⟩), (6, ⟨j, l.number⟩)]) := by
  obtain ⟨sp, hlead, hsp, -⟩ := l.constant_leads.exists_eq
  have hexponent (before : List Char) : exponentX.Best before l.exponent
      ((l.constant ++ ((l.constantGap ++ '=' :: l.spaces) ++ l.number)) ++ l.rest) g g := by
    obtain ⟨c, cs, hconstant, hc⟩ := l.constant_leads.exists_cons (Or.inl e.isSome_sign)
    refine best_exponentX l.exponentAt fun c' hc' => ?_
    obtain rfl : c = c' := by simpa [hconstant] using hc'
    refine ⟨hc, ?_⟩
    rintro rfl
    exact absurd (l.constant_leads.mem ')' (by simp [hconstant])) (by decide)
  have hconstant (before : List Char) : (cat [sign, blanks, Reading.number]).Best before l.constant
      (((l.constantGap ++ '=' :: l.spaces) ++ l.number) ++ l.rest) g g := by
    rw [hlead]
    refine best_signThen hsp (fun hnone => ?_) (fun _ _ => best_sign e.isSome_sign)
      fun _ => best_digits_of_some e.isSome_constant ?_
    · have := e.isSome_constant
      simp [hnone] at this
    · simp only [List.append_assoc]
      exact numberEnds_variable l.constant_leads.gap_blank (by decide) _
  have hequals (before : List Char) (g : Groups) :
      equals.Best before (l.constantGap ++ '=' :: l.spaces) (l.number ++ l.rest) g g :=
    best_equals l.constant_leads.gap_blank l.eq_space
      (l.number_leads.head?_append (Or.inr e.isSome_number) _)
  have hnumber (before : List Char) (g : Groups) : signedNumber.Best before l.number l.rest g g :=
    best_signedNumber l.number_leads (numberEnds_of_eq_space l.number_leads.gap_blank)
      e.isSome_number
  have hall := best_seq (hexponent before) (best_seq (best_optional (best_group (i := 5)
    (hconstant _))) (best_seq (hequals _ _) (best_group (i := 6) (hnumber _ _))))
  rw [List.append_assoc g] at hall
  exact ⟨_, _, hall⟩

/-- A factor that is written is taken for the second factor; else that is what stands before the
last digit of the base. -/
theorem best_behindSquare (before : List Char) (g : Groups) : ∃ lead gap i j k n,
    e.secondFactor.Leads lead gap ∧
    (cat [group 3 factorPart, times, group 4 Reading.base, endPart]).Best before
      (l.lead ++ (l.gap ++ (l.star ++ (e.base.chars ++ l.behindBase)))) l.rest g
      (g ++ [(3, ⟨i, lead⟩), (4, ⟨j, e.secondBase.chars⟩), (5, ⟨k, l.constant⟩),
        (6, ⟨n, l.number⟩)]) := by
  obtain ⟨sp, hlead, hsp, hsign⟩ := l.multiplies.leads.exists_eq
  cases hn : e.middle.factor with
  | some n =>
      have hsome : e.middle.factor.isSome = true := by simp [hn]
      obtain ⟨sp', hstar, hsp'⟩ := l.multiplies.exists_star hsome
      have hdigit : ∀ d ∈ '.' :: digitChars, Text.isBlank d = false :=
        List.all_iff_forall_prop.mp (by decide)
      have hfactor (before : List Char) : factorPart.Best before l.lead
          (((l.gap ++ l.star) ++ (e.base.chars ++ l.behindBase)) ++ l.rest) g g := by
        rw [hlead]
        refine best_signThen hsp (fun hnone => by simp [hnone] at hsome)
          (fun _ _ => best_sign e.isSome_middle) fun _ => best_optional_digits ?_
        rw [hstar]
        simp only [List.append_assoc]
        exact numberEnds_variable l.multiplies.leads.gap_blank (by decide) _
      have htimes (before : List Char) (g : Groups) : times.Best before (l.gap ++ l.star)
          ((e.base.chars ++ l.behindBase) ++ l.rest) g g := by
        rw [hstar]
        refine best_times_star l.multiplies.leads.gap_blank hsp' fun c hc => ?_
        rw [List.append_assoc] at hc
        exact hdigit c (e.base.head?_chars_append _ c hc)
      obtain ⟨k, m, hbehind⟩ := l.best_behindBase _ _
      have hall := best_seq (best_group (i := 3) (hfactor before)) (best_seq (htimes _ _)
        (best_seq (best_group (i := 4) (best_base e.base (l.caretAhead l.rest).numberEnds))
          hbehind))
      simp only [List.append_assoc, List.cons_append, List.nil_append] at hall
      rw [secondFactor, secondBase, if_pos hsome, if_pos hsome]
      exact ⟨l.lead, l.gap, _, _, k, m, l.multiplies.leads, hall⟩
  | none =>
      have hnone : ¬ e.middle.factor.isSome = true := by simp [hn]
      -- the factor would take the base, and gives back its last digit
      have hfactor : factorPart.GivesBack before (e.middle.mark ++ (sp ++ e.base.frontChars))
          e.base.back.chars (l.behindBase ++ l.rest) g g :=
        givesBack_signThen hsp (best_sign e.isSome_middle) fun _ =>
          givesBack_optional_number (l.caretAhead l.rest).numberEnds e.base
      obtain ⟨k, m, hbehind⟩ := l.best_behindBase _ _
      have hall := best_borrowed (i := 4) (givesBack_group (i := 3) hfactor)
        (l.caretAhead l.rest) rfl hbehind
      simp only [List.append_assoc, List.cons_append, List.nil_append] at hall
      rw [secondFactor, secondBase, if_neg hnone, if_neg hnone, hlead,
        l.multiplies.leads.gap_eq_nil hn, l.multiplies.star_eq_nil hn, e.base.chars_eq_append,
        Term.digits, hn]
      simp only [Option.elim_none, List.append_assoc, List.nil_append]
      exact ⟨_, [], _, _, k, m, ⟨⟨sp, rfl, hsp, hsign⟩, by simp, fun _ => rfl⟩, hall⟩

end TextAt

/-- The groups of a match are read as the two factors, the two bases, the constant and the
number. -/
structure ReadFrom (α : Type) [Scalar α] (e : PowerQuadratic) (m : Match) : Prop where
  firstFactor : coefficientAt m 1 = (e.firstFactor.coefficient : α)
  firstBase : baseValue (m.group 2) = (e.base.back.value : α)
  secondFactor : coefficientAt m 3 = (e.secondFactor.coefficient : α)
  secondBase : baseValue (m.group 4) = (e.secondBase.value : α)
  constant : termAt m 5 = (e.constant.coefficient : α)
  number : coefficientAt m 6 = (e.number.coefficient : α)

section Found

variable {α : Type} [Scalar α] {s : String} (l : TextAt e s.toList)
include l

theorem TextAt.exists_find? : ∃ m, Shape.exponentialQuadratic.find? s = some m ∧
    ReadFrom α e m := by
  have hcaret := l.squareAt.caretAhead
    ((l.lead ++ (l.gap ++ (l.star ++ (e.base.chars ++ l.behindBase)))) ++ l.rest)
  have hfactor : coefficient.GivesBack [] e.base.frontChars e.base.back.chars
      (l.square ++ ((l.lead ++ (l.gap ++ (l.star ++ (e.base.chars ++ l.behindBase)))) ++ l.rest))
      [] [] :=
    givesBack_coefficient hcaret.numberEnds
  have hsquare (before : List Char) (g : Groups) : (cat [blanks, exponentTwoX]).Best before l.square
      ((l.lead ++ (l.gap ++ (l.star ++ (e.base.chars ++ l.behindBase)))) ++ l.rest) g g := by
    rw [List.append_assoc l.lead]
    exact best_exponentTwoX l.squareAt (l.multiplies.leads.head?_append (Or.inl e.isSome_middle) _)
  obtain ⟨lead, gap, i, j, k, n, hleads, hbehind⟩ := l.best_behindSquare _ _
  have hall := best_borrowed (i := 2) (givesBack_group (i := 1) hfactor) hcaret
    (List.append_assoc ..).symm (best_seq_assoc (best_seq (hsquare _ _) hbehind))
  have hfind : Shape.exponentialQuadratic.find? s = some _ := find?_eq_some_of_start (by
    rw [← List.append_assoc e.base.frontChars, ← e.base.chars_eq_append, List.append_assoc,
      List.append_assoc]
    exact l.text_eq_behindBase) hall
  refine ⟨_, hfind, ?_, ?_, ?_, ?_, ?_, ?_⟩
  · exact parseCoefficient_of_spaces e.firstFactor (g := []) (by simp)
  · exact baseValue_chars e.base.back
  · exact coefficientAt_of_leads (c := ⟨i, lead⟩) rfl hleads
  · exact baseValue_chars e.secondBase
  · exact parseCoefficient_lead l.constant_leads
  · exact coefficientAt_of_leads (c := ⟨n, l.number⟩) rfl l.number_leads

theorem TextAt.exponentialQuadratic_eq : (exponentialQuadratic s : Params α) = e.record := by
  obtain ⟨m, hfind, hread⟩ := l.exists_find? (α := α)
  rw [exponentialQuadratic, fromShape, hfind]
  simp only [hread.firstFactor, hread.firstBase, hread.secondFactor, hread.constant, hread.number]
  rfl

theorem TextAt.isSome_mixedBases_iff : (mixedBases α s).isSome = true ↔
    Scalar.isZero (e.base.back.value - e.secondBase.value : α) = false := by
  obtain ⟨m, hfind, hread⟩ := l.exists_find? (α := α)
  simp only [mixedBases, hfind, hread.firstBase, hread.secondBase]
  split <;> simp_all

end Found

section Kind

theorem TextAt.stated {text : List Char} (l : TextAt e text) :
    Stated .exponentialQuadratic text := by
  obtain ⟨g₁, g₂, g₃, g₄, g₅, g₆, hsquare, hspaces⟩ := l.squareAt.exists_eq
  obtain ⟨a, b, b', hexponent, ha, hb, -⟩ := l.exponentAt.exists_eq
  obtain ⟨sp, hlead, hsp, -⟩ := l.multiplies.leads.exists_eq
  obtain ⟨sign, hsign⟩ := Option.isSome_iff_exists.mp e.isSome_middle
  have hmark : e.middle.mark = [sign.char] := by rw [Term.mark, hsign, Option.elim_some]
  refine ⟨_, List.mem_cons_self, e.base.chars ++ g₁,
    ('^' :: (g₂ ++ '(' :: (g₃ ++ '2' :: (g₄ ++ 'x' :: (g₅ ++ ')' :: g₆))))) ++ (e.middle.mark ++
      ((sp ++ (e.middle.digits ++ (l.gap ++ (l.star ++ (e.base.chars ++ a))))) ++
        ('^' :: (b ++ ['x'])))), b' ++ (l.constant ++ (l.constantGap ++ '=' :: (l.spaces ++
          (l.number ++ l.rest)))), ?_, ?_⟩
  · refine l.text_eq.trans ?_
    simp [hsquare, hexponent, hlead]
  · have hblank {g : List Char} (hg : g ∈ [g₁, g₂, g₃, g₄, g₅, g₆]) : AllBlank g :=
      allBlank_of_eq_space (hspaces g hg)
    refine takes_seq.mpr ⟨_, _, rfl, takes_exponentTwoX.mpr ⟨g₂, g₃, g₄, g₅, g₆, rfl,
        hblank (by simp), hblank (by simp), ⟨g₄, [], [], by simp, hblank (by simp), Or.inr rfl,
          allBlank_nil⟩, hblank (by simp), hblank (by simp)⟩,
      takes_seq.mpr ⟨_, _, rfl, ?_, takes_seq.mpr ⟨_, _, rfl, ?_, ?_⟩⟩⟩
    · rw [hmark]
      simpa using sign.char_mem
    · rw [takes_manyExcept]
      intro c hc
      have hnone : ∀ c ∈ '*' :: ' ' :: '.' :: '+' :: '-' :: digitChars, c ∉ ['=', '<', '>'] :=
        List.all_iff_forall_prop.mp (by decide)
      refine hnone c ?_
      have hbetween := l.multiplies.mem c
      simp only [hlead, List.mem_append] at hc hbetween
      rcases hc with hc | hc | hc | hc | hc | hc
      · exact hbetween (by simp [hc])
      · exact hbetween (by simp [hc])
      · exact hbetween (by simp [hc])
      · exact hbetween (by simp [hc])
      · rcases e.base.mem_chars hc with h | rfl
        · simp [mem_digits_of_isDigit h]
        · simp
      · simp [ha c hc]
    · simp only [cat, takes_seq, takes_blanks, takes_char, takes_optional]
      exact ⟨['^'], _, rfl, rfl, b, ['x'], rfl, allBlank_of_eq_space hb, [], ['x'], rfl,
        Or.inr rfl, [], ['x'], rfl, allBlank_nil, rfl⟩

theorem lacks_inequality_texts : (recognizers .exponentialInequality).all
    (lacks (' ' :: '(' :: ')' :: '=' :: powerAlphabet)) = true := by
  decide +kernel

theorem TextAt.firstKind?_eq {s : String} (l : TextAt e s.toList) :
    firstKind? s = some .exponentialQuadratic := by
  rw [firstKind?_eq_some_iff]
  refine ⟨l.stated, ?_⟩
  rintro k hk ⟨p, hp, hwithin⟩
  obtain rfl : k = .exponentialInequality := List.mem_singleton.mp hk
  have hmem : ∀ c ∈ s.toList, c ∈ ' ' :: '(' :: ')' :: '=' :: powerAlphabet := by
    intro c hc
    rcases mem_of_spelled l.spelled hc with hc | ⟨t, ht, hc⟩
    · obtain rfl : c = ' ' := by simpa using hc
      exact List.mem_cons_self
    · exact List.mem_cons_of_mem _ ((mem_tokens ht).2 c hc)
  exact not_within_of_lacks (List.all_eq_true.mp lacks_inequality_texts p hp) hmem hwithin

end Kind

section Values

variable {α : Type} [Scalar α]

/-- The record has the leading coefficient 1 and the base, the factor and the constant that are
written. -/
structure Exact (e : PowerQuadratic) (p : Params α) : Prop where
  leading : p.number? "a" = some 1
  base : Solve.base? p = some e.base.value
  middle : p.number? "b" = some e.middle.coefficient
  constant : p.number? "c" = some (e.constant.coefficient - e.number.coefficient)

theorem coefficient_eq_of_size {t u : Term} (hsign : t.sign = u.sign)
    (h : (t.factor.elim 1 Unsigned.value : α) = u.factor.elim 1 Unsigned.value) :
    (t.coefficient : α) = u.coefficient := by
  rw [Term.coefficient, Term.coefficient, hsign, h]

/-- The base and the leading coefficient are read right only together. -/
theorem exact_record_iff : Exact e (e.record : Params α) ↔
    e.base.front.elim 1 Unsigned.value = (1 : α) ∧ e.base.back.value = (e.base.value : α) := by
  have hleading : (e.record : Params α).number? "a" = some (e.base.front.elim 1 Unsigned.value) :=
    rfl
  have hbase : Solve.base? (e.record : Params α) = some e.base.back.value := rfl
  have hmiddle : (e.record : Params α).number? "b" = some e.secondFactor.coefficient := rfl
  have hconstant : (e.record : Params α).number? "c" =
      some (e.constant.coefficient - e.number.coefficient) := rfl
  constructor
  · rintro ⟨h₁, h₂, -, -⟩
    rw [hleading] at h₁
    rw [hbase] at h₂
    exact ⟨Option.some.inj h₁, Option.some.inj h₂⟩
  · rintro ⟨h₁, h₂⟩
    refine ⟨by rw [hleading, h₁], by rw [hbase, h₂], ?_, hconstant⟩
    rw [hmiddle, secondFactor]
    split
    · rfl
    · rename_i hnone
      have hfactor : e.middle.factor = none := by simpa using hnone
      refine congrArg some (coefficient_eq_of_size rfl ?_)
      rw [hfactor]
      exact h₁

theorem elim_front_iff (n : Unsigned) :
    n.front.elim 1 Unsigned.value = (1 : α) ∧ n.back.value = (n.value : α) ↔
      n.whole.length + n.fraction.length = 1 ∨ n.SplitsExactly α := by
  rw [← n.front_eq_none_iff, Unsigned.SplitsExactly]
  cases hfront : n.front with
  | none => simp [n.value_back_of_front_eq_none hfront]
  | some f => simp

theorem isZero_sub_back (n : Unsigned) :
    Scalar.isZero (n.back.value - n.back.value : Float) = true := by
  have hdigits : ∀ d ∈ digitChars, ∀ k ∈ [0, 1],
      (Scalar.ofDecimal (Literal.natOfDigits [d]) (0 - (k : Nat)) : Float).isFinite = true := by
    have hall : digitChars.all (fun d => [0, 1].all fun k : Nat =>
        (Scalar.ofDecimal (Literal.natOfDigits [d]) (0 - k) : Float).isFinite) = true := by
      decide +kernel
    simpa only [List.all_eq_true] using hall
  refine Double.isZero_sub_self ?_
  obtain ⟨d, hd, ⟨hwhole, hfraction⟩ | ⟨hwhole, hfraction⟩⟩ := n.back_cases
  · rw [Unsigned.value, hwhole, hfraction]
    exact hdigits d (mem_digits_of_isDigit hd) 0 (by simp)
  · rw [Unsigned.value, hwhole, hfraction]
    exact hdigits d (mem_digits_of_isDigit hd) 1 (by simp)

theorem isZero_sub_secondBase_iff :
    Scalar.isZero (e.base.back.value - e.secondBase.value : Float) = false ↔
      e.middle.factor.isSome = true ∧
        Scalar.isZero (e.base.back.value - e.base.value : Float) = false := by
  rw [secondBase]
  split
  · rename_i hsome
    simp [hsome]
  · rename_i hnone
    simp [hnone, isZero_sub_back]

end Values

section Parse

variable {text : String} (h : e.Writes text) (context : Option String)
include h

theorem parseProblem_eq (α : Type) [Scalar α] :
    parseProblem (⟨some text, none, none, none, context⟩ : Question α) =
      if Scalar.isZero (e.base.back.value - e.secondBase.value : α) then
        .ok ⟨text, normalize text, .exponentialQuadratic, none, e.record, context⟩
      else .error (.unrecognized (normalize text)) := by
  have hspelled := spelled_normalize h
  obtain ⟨l⟩ := nonempty_textAt hspelled
  have hne : normalize text ≠ "" :=
    ne_empty_of_spelled hspelled (t := ['x']) (by simp [tokens]) (by simp)
  rw [parseProblem_of_exponentialQuadratic context hne l.firstKind?_eq, l.exponentialQuadratic_eq]
  have hmixed := l.isSome_mixedBases_iff (α := α)
  cases hzero : Scalar.isZero (e.base.back.value - e.secondBase.value : α)
  · rw [if_pos (hmixed.mpr hzero), if_neg (by simp)]
  · rw [if_neg (by simp [hmixed, hzero]), if_pos rfl]

/-- The equation is read exactly if the base has a single digit, or its digits before the last one
are read as 1 and the last one as the base; it is refused for mixed bases if a factor is
written before the second base and the last digit is not the whole base. -/
theorem parseProblem_exact_iff :
    ((∃ problem : Problem Float, parseProblem ⟨some text, none, none, none, context⟩ =
        .ok problem ∧ problem.kind = .exponentialQuadratic ∧ Exact e problem.parameters) ↔
      e.base.whole.length + e.base.fraction.length = 1 ∨ e.base.SplitsExactly Float) ∧
    (parseProblem (⟨some text, none, none, none, context⟩ : Question Float) =
        .error (.unrecognized (normalize text)) ↔
      e.middle.factor.isSome = true ∧
        Scalar.isZero (e.base.back.value - e.base.value : Float) = false) := by
  have hparse := parseProblem_eq h context Float
  rw [← isZero_sub_secondBase_iff, ← elim_front_iff, ← exact_record_iff]
  cases hzero : Scalar.isZero (e.base.back.value - e.secondBase.value : Float)
  · rw [hzero, if_neg (by simp)] at hparse
    refine ⟨⟨?_, fun hexact => ?_⟩, by simp [hparse]⟩
    · rintro ⟨problem, hok, -⟩
      rw [hparse] at hok
      cases hok
    · -- where the bases differ the last digit is not the whole base
      have hdiffer := (isZero_sub_secondBase_iff.mp hzero).2
      rw [← (exact_record_iff.mp hexact).2, isZero_sub_back] at hdiffer
      cases hdiffer
  · rw [hzero, if_pos rfl] at hparse
    refine ⟨⟨?_, fun hexact => ⟨_, hparse, rfl, hexact⟩⟩, by simp [hparse]⟩
    rintro ⟨problem, hok, -, hexact⟩
    obtain rfl := Except.ok.inj (hparse.symm.trans hok)
    exact hexact

end Parse

def spacing : List (List Char) :=
  [[], [], [], [], [], [' '], [' '], [], [], [], [], [' '], [' '], [' '], [' '], []]

/-- The equation of `4^(2x) - 5*4^x + 4 = 0`. -/
def powersOfFour : PowerQuadratic where
  base := .ofDigits ['4'] [] rfl rfl
  middle := .ofDigit (some .minus) '5' rfl .linear
  constant := .ofDigit (some .plus) '4' rfl .constant
  number := .ofDigit none '0' rfl .constant
  isSome_middle := rfl
  isSome_sign := rfl
  isSome_constant := rfl
  isSome_number := rfl

theorem parseProblem_powersOfFour : powersOfFour.Writes "4^(2x) - 5*4^x + 4 = 0" ∧
    ∃ problem : Problem Float,
      parseProblem ⟨some "4^(2x) - 5*4^x + 4 = 0", none, none, none, none⟩ = .ok problem ∧
      problem.kind = .exponentialQuadratic ∧ Exact powersOfFour problem.parameters := by
  have hspelled : Spelled Text.isBlank powersOfFour.tokens "4^(2x) - 5*4^x + 4 = 0".toList :=
    spelled_of_gaps spacing rfl (by decide) (by decide)
  have hwrites : powersOfFour.Writes "4^(2x) - 5*4^x + 4 = 0" := hspelled.spaced
  exact ⟨hwrites, (parseProblem_exact_iff hwrites none).1.mpr (Or.inl rfl)⟩

/-- The equation of `10^(2x) - 5*10^x + 4 = 0`. -/
def powersOfTen : PowerQuadratic where
  base := .ofDigits ['1', '0'] [] rfl rfl
  middle := .ofDigit (some .minus) '5' rfl .linear
  constant := .ofDigit (some .plus) '4' rfl .constant
  number := .ofDigit none '0' rfl .constant
  isSome_middle := rfl
  isSome_sign := rfl
  isSome_constant := rfl
  isSome_number := rfl

/-- The first base is taken for 0. -/
theorem unrecognized_powersOfTen : powersOfTen.Writes "10^(2x) - 5*10^x + 4 = 0" ∧
    parseProblem (⟨some "10^(2x) - 5*10^x + 4 = 0", none, none, none, none⟩ : Question Float) =
      .error (.unrecognized (normalize "10^(2x) - 5*10^x + 4 = 0")) := by
  have hspelled : Spelled Text.isBlank powersOfTen.tokens "10^(2x) - 5*10^x + 4 = 0".toList :=
    spelled_of_gaps spacing rfl (by decide) (by decide)
  have hwrites : powersOfTen.Writes "10^(2x) - 5*10^x + 4 = 0" := hspelled.spaced
  refine ⟨hwrites, ?_⟩
  have hmixed : Scalar.isZero
      (powersOfTen.base.back.value - powersOfTen.secondBase.value : Float) = false := by
    decide +kernel
  rw [parseProblem_eq hwrites none Float, hmixed]
  rfl

end PowerQuadratic

end EquationTutor
