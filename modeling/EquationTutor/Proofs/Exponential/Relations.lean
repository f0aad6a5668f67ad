import EquationTutor.Proofs.Exponential.Pieces
import EquationTutor.Proofs.Polynomial.Faithful
import EquationTutor.Proofs.Reading.ExponentTexts
import EquationTutor.Solve.Required
/-!
Relations between a multiple of a power and a number, and what their texts are read as. The shapes
take a factor only together with a star. A sign that stands alone before the base is passed over
by the search, so the coefficient -1 is read as 1.
-/

namespace EquationTutor

open PolynomialText Reading Pattern

namespace PolynomialText

/-- A base is taken whole, and none begins at a sign or a space. -/
structure TakesBase (basePart : Pattern) : Prop where
  best : ∀ (n : Unsigned) (before rest : List Char) (g : Groups), NumberEnds rest →
    basePart.Best before n.chars rest g g
  refuses : ∀ (before rest : List Char) (c : Char), c ∈ [' ', '+', '-'] →
    basePart.Refuses before (c :: rest)

theorem takesBase_number : TakesBase number where
  best n _ _ _ hrest := best_number n hrest
  refuses before rest c hc := by
    have hall : ∀ c ∈ [' ', '+', '-'], Text.isDigit c = false ∧ (c == '.') = false :=
      List.all_iff_forall_prop.mp (by decide)
    refine refuses_number ?_ ?_ <;> intro d hd <;> obtain rfl : c = d := by simpa using hd
    · exact (hall c hc).1
    · exact (hall c hc).2

theorem takesBase_base : TakesBase base where
  best n _ _ _ hrest := best_base n hrest
  refuses before rest c hc := by
    have hall : ∀ c ∈ [' ', '+', '-'], (c == 'e') = false :=
      List.all_iff_forall_prop.mp (by decide)
    refine refuses_alt (takesBase_number.refuses before rest c hc) (refuses_one ?_)
    intro d hd
    obtain rfl : c = d := by simpa using hd
    exact hall c hc

end PolynomialText

/-- A power with the exponent `x`, times a factor, against a number. Of the two terms only what
stands before a variable counts. -/
structure PowerRelation where
  factor : Term
  base : Unsigned
  relation : Relation
  number : Term
  relation_ne : relation ≠ .ne
  isSome_number : number.factor.isSome = true

namespace PowerRelation

variable (e : PowerRelation)

def tokens : List (List Char) :=
  e.factor.product ++ (e.base.power ++ e.relation.operator.toList :: e.number.lead)

/-- Whether the text is the relation, with any blanks around its tokens. -/
def Writes (text : String) : Prop :=
  Spaced Text.isBlank e.tokens text.toList

def kind : Kind :=
  if e.relation = .eq then .simpleExponential else .exponentialInequality

/-- The parameter that the number becomes. -/
def numberKey : String :=
  if e.relation = .eq then "result" else "bound"

/-- The parameters that are read. A factor that is not written is left out with its sign. -/
def record {α : Type} [Scalar α] : Params α :=
  let p := Params.empty.insertNumber "base" (e.base.value : α)
  let q := if e.relation = .eq then p.insertNumber "result" e.number.coefficient
    else (p.insertText "operator" e.relation.operator).insertNumber "bound" e.number.coefficient
  if e.factor.factor.isSome then q.insertNumber "coefficient" e.factor.coefficient else q

/-- The factor is a minus sign alone. -/
def IsLoneMinus : Prop :=
  e.factor.factor = none ∧ e.factor.sign = some .minus

/-- The coefficient that is solved with. -/
def coefficientRead {α : Type} [Scalar α] (p : Params α) : α :=
  p.numberD "coefficient" 1

variable {e}

theorem mem_tokens {s : List Char} (h : s ∈ e.tokens) :
    s = e.relation.operator.toList ∨ s ≠ [] ∧ ∀ c ∈ s, c ∈ powerAlphabet := by
  simp only [tokens, List.mem_append, List.mem_cons] at h
  rcases h with h | h | h | h
  · exact Or.inr (mem_powerAlphabet_of_product h)
  · exact Or.inr (mem_powerAlphabet_of_power h)
  · exact Or.inl h
  · exact Or.inr (mem_powerAlphabet_of_lead h)

theorem count_star_tokens :
    e.tokens.flatten.count '*' = if e.factor.factor.isSome then 1 else 0 := by
  have hoperator : e.relation.operator.toList.count '*' = 0 := by
    cases e.relation <;> decide
  simp [tokens, hoperator]

theorem spelled_normalize {text : String} (h : e.Writes text) :
    Spelled (· == ' ') e.tokens (normalize text).toList := by
  refine spelled_normalize_of_powers (fun s hs => ?_) ?_ h
  · rcases mem_tokens hs with rfl | ⟨hne, hs⟩
    · rcases Relation.operator_cases e.relation_ne with ⟨-, h⟩ | ⟨-, c, rfl | rfl, h | h⟩ <;>
        rw [h] <;> simp [relationAlphabet]
    · exact ⟨hne, fun c hc => by simp [hs c hc]⟩
  · rw [count_star_tokens]
    split <;> decide

/-- The text of the relation, taken apart. -/
structure TextAt (e : PowerRelation) (text : List Char) where
  lead : List Char
  gap : List Char
  star : List Char
  exponent : List Char
  spaces : List Char
  number : List Char
  rest : List Char
  text_eq : text = lead ++ (gap ++ (star ++ (e.base.chars ++ (exponent ++
    (e.relation.operator.toList ++ (spaces ++ (number ++ rest)))))))
  multiplies : e.factor.Multiplies lead gap star
  exponentAt : ExponentAt exponent
  eq_space : ∀ c ∈ spaces, c = ' '
  leads : e.number.Leads number rest
  spelled : Spelled (· == ' ') e.tokens text

variable {text : List Char}

theorem nonempty_textAt (h : Spelled (· == ' ') e.tokens text) : Nonempty (TextAt e text) := by
  have hspelled := h
  obtain ⟨lead, gap, star, _, rfl, hfactor, h⟩ := e.factor.exists_multiplies_of_spelled h
  obtain ⟨exponent, _, rfl, hexponent, spaces, _, rfl, hspaces, h⟩ :=
    exists_exponentAt_of_spelled h
  rw [← List.append_nil e.number.lead] at h
  obtain ⟨number, rest, _, rfl, hnumber, rfl⟩ := e.number.exists_leads_of_spelled_lead h
  exact ⟨⟨lead, gap, star, exponent, spaces, number, rest, by simp, hfactor, hexponent,
    by simpa using hspaces, hnumber, hspelled⟩⟩

/-- The shapes of both kinds: they differ in what they take for a base and for an operator. -/
def shape (basePart operatorPart : Pattern) (k : Nat) : Pattern :=
  cat [optional (cat [group 1 signedNumber, blanks, char '*', blanks]), group 2 basePart,
    exponentX, operatorPart, blanks, group k signedNumber]

theorem refuses_factor {before rest : List Char} (h : '*' ∉ rest) :
    (cat [group 1 signedNumber, blanks, char '*', blanks]).Refuses before rest := by
  rintro _ left rfl ⟨_, _, rfl, -, _, _, rfl, -, _, _, rfl, hx, -⟩
  rw [takes_char.mp hx] at h
  simp at h

theorem refuses_shape {basePart operatorPart : Pattern} (hbase : TakesBase basePart) {k : Nat}
    {before rest : List Char} {c : Char} (hc : c ∈ [' ', '+', '-']) (hstar : '*' ∉ c :: rest) :
    (shape basePart operatorPart k).Refuses before (c :: rest) := by
  rintro _ left hsplit ⟨s, t, rfl, hs | rfl, ht⟩
  · exact refuses_factor hstar s (t ++ left) (by simpa using hsplit) hs
  · obtain ⟨u, v, rfl, hu, -⟩ := ht
    exact hbase.refuses _ rest c hc u (v ++ left) (by simpa using hsplit) hu

theorem head_operator (rest : List Char) : ∀ c ∈ (e.relation.operator.toList ++ rest).head?,
    Text.isBlank c = false ∧ c ≠ ')' := by
  intro c hc
  have hall : ∀ c ∈ relationChars, Text.isBlank c = false ∧ c ≠ ')' :=
    List.all_iff_forall_prop.mp (by decide)
  exact hall c (e.relation.head_operator rest c hc).1

namespace TextAt

variable (l : TextAt e text)
include l

theorem star_notMem (h : e.factor.factor = none) : '*' ∉ text := by
  rw [← List.count_eq_zero, count_of_spelled (by decide) l.spelled, count_star_tokens, h]
  rfl

theorem mem_lead (h : e.factor.factor = none) : ∀ c ∈ l.lead, c ∈ [' ', '+', '-'] := by
  obtain ⟨g, hlead, hg, -⟩ := l.multiplies.leads.exists_eq
  rw [hlead, Term.digits, h, Option.elim_none, List.append_nil]
  intro c hc
  rcases List.mem_append.mp hc with hc | hc
  · rcases e.factor.mark_cases with h | h | h <;> rw [h] at hc
    · cases hc
    all_goals
      rw [List.mem_singleton.mp hc]
      decide
  · rw [hg c hc]
    decide

/-- What is taken from the base on. -/
def fromBase : List Char :=
  e.base.chars ++ (l.exponent ++ (e.relation.operator.toList ++ (l.spaces ++ l.number)))

theorem text_eq_fromBase : text = l.lead ++ (l.gap ++ (l.star ++ (l.fromBase ++ l.rest))) := by
  simpa [fromBase] using l.text_eq

section Best

variable {basePart operatorPart : Pattern} (hbase : TakesBase basePart)
  {operators : List Char → Groups}
  (hoperator : ∀ before g, operatorPart.Best before e.relation.operator.toList
    (l.spaces ++ l.number ++ l.rest) g (g ++ operators before))
include hbase hoperator

theorem best_fromBase (k : Nat) (before : List Char) (g : Groups) : ∃ b j,
    (cat [group 2 basePart, exponentX, operatorPart, blanks, group k signedNumber]).Best before
      l.fromBase l.rest g
      (g ++ (2, ⟨before.length, e.base.chars⟩) :: (operators b ++ [(k, ⟨j, l.number⟩)])) := by
  have hend := numberEnds_of_eq_space l.leads.gap_blank
  have hnumber (before : List Char) (g : Groups) :
      (cat [blanks, group k signedNumber]).Best before (l.spaces ++ l.number) l.rest g
        (g ++ [(k, ⟨(before ++ l.spaces).length, l.number⟩)]) :=
    best_seq (best_blanks (allBlank_of_eq_space l.eq_space)
      (l.leads.head?_append (Or.inr e.isSome_number) _))
      (best_group (best_signedNumber l.leads hend e.isSome_number))
  have hfront : NumberEnds
      ((l.exponent ++ (e.relation.operator.toList ++ (l.spaces ++ l.number))) ++ l.rest) := by
    rw [List.append_assoc]
    exact l.exponentAt.numberEnds _
  have hexponent : exponentX.Best (before ++ e.base.chars) l.exponent
      ((e.relation.operator.toList ++ (l.spaces ++ l.number)) ++ l.rest)
      (g ++ [(2, ⟨before.length, e.base.chars⟩)]) (g ++ [(2, ⟨before.length, e.base.chars⟩)]) := by
    refine best_exponentX l.exponentAt ?_
    rw [List.append_assoc]
    exact head_operator _
  have hall := best_seq (best_group (i := 2) (hbase.best e.base before _ g hfront))
    (best_seq hexponent (best_seq (hoperator _ _) (hnumber _ _)))
  simp only [List.append_assoc, List.cons_append, List.nil_append] at hall
  exact ⟨_, _, hall⟩

end Best

theorem best_factor (h : e.factor.factor.isSome = true) :
    (cat [group 1 signedNumber, blanks, char '*', blanks]).Best []
      (l.lead ++ (l.gap ++ l.star)) (l.fromBase ++ l.rest) [] [(1, ⟨0, l.lead⟩)] := by
  obtain ⟨sp, hstar, hsp⟩ := l.multiplies.exists_star h
  have hall : ∀ d ∈ '.' :: digitChars, Text.isBlank d = false :=
    List.all_iff_forall_prop.mp (by decide)
  rw [hstar]
  refine best_seq (best_group (best_signedNumber l.multiplies.leads ?_ h))
    (best_seq (best_blanks (allBlank_of_eq_space l.multiplies.leads.gap_blank) ?_)
      (best_seq (s := ['*']) best_char (best_blanks (allBlank_of_eq_space hsp) ?_)))
  · rw [List.append_assoc]
    exact numberEnds_variable l.multiplies.leads.gap_blank (by decide) _
  · intro c hc
    obtain rfl : '*' = c := by simpa using hc
    decide
  · rw [fromBase, List.append_assoc]
    exact fun c hc => hall c (e.base.head?_chars_append _ c hc)

end TextAt

/-- The match has the group of the factor, if that is written, and then others. -/
def TextAt.Found {text : List Char} (l : TextAt e text) (m : Match) (gs : Groups) : Prop :=
  ∃ i, m.groups = (if e.factor.factor.isSome then [(1, ⟨i, l.lead⟩)] else []) ++ gs

/-- What a shape finds: the factor if it is written, the base, the operator and the number. -/
theorem TextAt.exists_find?_shape {s : String} (l : TextAt e s.toList)
    {basePart operatorPart : Pattern} (hbase : TakesBase basePart) (operators : List Char → Groups)
    (hoperator : ∀ before g, operatorPart.Best before e.relation.operator.toList
      (l.spaces ++ l.number ++ l.rest) g (g ++ operators before)) (k : Nat) : ∃ m b j n,
    (shape basePart operatorPart k).find? s = some m ∧
      l.Found m ((2, ⟨j, e.base.chars⟩) :: (operators b ++ [(k, ⟨n, l.number⟩)])) := by
  cases hn : e.factor.factor with
  | none =>
      -- the sign and the spaces behind it are passed over
      have htext : s.toList = l.lead ++ (l.fromBase ++ l.rest) := by
        refine l.text_eq_fromBase.trans ?_
        rw [l.multiplies.leads.gap_eq_nil hn, l.multiplies.star_eq_nil hn]
        rfl
      have hstar := l.star_notMem hn
      obtain ⟨b, n, hbest⟩ := l.best_fromBase hbase hoperator k l.lead []
      rw [← List.append_nil l.lead] at hbest
      refine ⟨_, b, _, n, find?_eq_some htext (best_seq (s := [])
        (best_optional_of_refuses (refuses_factor fun h => hstar ?_)) hbest) ?_, 0, by rw [hn]; rfl⟩
      · rw [htext]
        exact List.mem_append_right _ h
      · intro before behind hsplit hbehind
        obtain ⟨c, behind, rfl⟩ := List.exists_cons_of_ne_nil hbehind
        refine refuses_shape hbase (l.mem_lead hn c (by simp [hsplit])) fun h => hstar ?_
        rw [htext, hsplit, List.append_assoc]
        exact List.mem_append_right _ h
  | some n =>
      have hsome : e.factor.factor.isSome = true := by simp [hn]
      obtain ⟨b, j, hbest⟩ := l.best_fromBase hbase hoperator k (l.lead ++ (l.gap ++ l.star))
        [(1, ⟨0, l.lead⟩)]
      have hall := best_seq (best_optional (l.best_factor hsome)) hbest
      refine ⟨_, b, _, j, find?_eq_some_of_start ?_ hall, 0, by rw [hn]; rfl⟩
      refine l.text_eq_fromBase.trans ?_
      simp

section Found

variable {text : List Char} {l : TextAt e text} {m : Match} {gs : Groups} (h : l.Found m gs)
include h

theorem TextAt.Found.lookup_eq {i : Nat} (hi : i ≠ 1) : m.groups.lookup i = gs.lookup i := by
  obtain ⟨j, hgroups⟩ := h
  have hne : (i == 1) = false := by simpa using hi
  rw [hgroups]
  split <;> simp [List.lookup_cons, hne]

theorem TextAt.Found.group_eq {i : Nat} {c : Capture} (hi : i ≠ 1) (hgs : gs.lookup i = some c) :
    m.group i = c.text := by
  rw [Match.group, Match.group?, Match.capture?, h.lookup_eq hi, hgs]
  rfl

variable {α : Type} [Scalar α]

theorem TextAt.Found.insertCoefficient_eq (hgs : gs.lookup 1 = none) (p : Params α) :
    insertCoefficient p (m.group? 1) =
      if e.factor.factor.isSome then p.insertNumber "coefficient" e.factor.coefficient else p := by
  obtain ⟨i, hgroups⟩ := h
  rw [Match.group?, Match.capture?, hgroups]
  split
  · have hcoefficient := parseCoefficient_lead (α := α) l.multiplies.leads
    simp [insertCoefficient, Capture.text, hcoefficient]
  · simp [insertCoefficient, hgs]

theorem TextAt.Found.coefficientAt_number {k n : Nat} (hk : k ≠ 1)
    (hgs : gs.lookup k = some ⟨n, l.number⟩) :
    coefficientAt m k = (e.number.coefficient : α) :=
  coefficientAt_of_leads (c := ⟨n, l.number⟩) (by rw [h.lookup_eq hk, hgs]) l.leads

end Found

section Record

variable {α : Type} [Scalar α] {s : String} (l : TextAt e s.toList)
include l

theorem TextAt.simpleExponential_eq (heq : e.relation = .eq) :
    (simpleExponential s : Params α) = e.record := by
  have hoperator (before : List Char) (g : Groups) :
      (char '=').Best before e.relation.operator.toList (l.spaces ++ l.number ++ l.rest) g
        (g ++ []) := by
    rw [heq, List.append_nil]
    exact best_char
  obtain ⟨m, b, j, n, hfind, hfound⟩ := l.exists_find?_shape takesBase_number (fun _ => [])
    hoperator 3
  have hfind : Shape.simpleExponential.find? s = some m := hfind
  have hbase : coefficientAt m 2 = (e.base.value : α) := by
    rw [coefficientAt, hfound.group_eq (by decide) rfl]
    exact parseCoefficient_chars e.base
  have hnumber : coefficientAt m 3 = (e.number.coefficient : α) :=
    hfound.coefficientAt_number (by decide) rfl
  rw [simpleExponential, fromShape, hfind]
  simp only [hfound.insertCoefficient_eq rfl, hbase, hnumber]
  rw [record, if_pos heq]

theorem TextAt.exponentialInequality_eq (hne : e.relation ≠ .eq) :
    (exponentialInequality s : Params α) = e.record := by
  have hequal : ∀ c ∈ (l.spaces ++ l.number ++ l.rest).head?, c ≠ '=' := by
    have hall : ∀ c ∈ ' ' :: '.' :: '+' :: '-' :: digitChars, c ≠ '=' :=
      List.all_iff_forall_prop.mp (by decide)
    intro c hc
    rw [List.append_assoc] at hc
    rcases List.mem_append.mp (List.mem_of_mem_head? hc) with hc | hc
    · rw [l.eq_space c hc]
      decide
    · exact hall c (l.leads.mem c hc)
  obtain ⟨m, b, j, n, hfind, hfound⟩ := l.exists_find?_shape takesBase_base
    (fun b => [(3, ⟨b.length, e.relation.operator.toList⟩)])
    (fun _ _ => best_group (best_orderSign e.relation_ne hne hequal)) 4
  have hfind : Shape.exponentialInequality.find? s = some m := hfind
  have hoperator : m.group 3 = e.relation.operator := by
    rw [hfound.group_eq (by decide) rfl]
    exact String.ofList_toList
  have hbase : baseValue (m.group 2) = (e.base.value : α) := by
    rw [hfound.group_eq (by decide) rfl]
    exact baseValue_chars e.base
  have hnumber : coefficientAt m 4 = (e.number.coefficient : α) :=
    hfound.coefficientAt_number (by decide) rfl
  rw [exponentialInequality, fromShape, hfind]
  simp only [hfound.insertCoefficient_eq rfl, hbase, hoperator, hnumber]
  rw [record, if_neg hne]

end Record

section Kind

theorem TextAt.powerThen {text : List Char} (l : TextAt e text) {follows : List Char → Prop}
    (h : follows (e.relation.operator.toList ++ (l.spaces ++ (l.number ++ l.rest)))) :
    PowerThen DigitBase follows text := by
  obtain ⟨cs, d, hchars, hd⟩ := e.base.exists_concat
  obtain ⟨g, g', g'', hexponent, hg, hg', hg''⟩ := l.exponentAt.exists_eq
  refine ⟨l.lead ++ (l.gap ++ (l.star ++ cs)), d, g, g', ['x'], g'', _, ?_, hd,
    allBlank_of_eq_space hg, allBlank_of_eq_space hg', ⟨[], [], [], [], rfl, Or.inl rfl,
    allBlank_nil, allBlank_nil, Or.inl rfl⟩, allBlank_of_eq_space hg'', h⟩
  refine l.text_eq.trans ?_
  simp [hchars, hexponent]

theorem TextAt.not_within_standardQuadratic {text : List Char} (l : TextAt e text) :
    ¬ (cat [squared 'x', manyExcept ['<', '>', '!'], char '=']).Within text := by
  rintro ⟨a, _, r, htext, s, m, rfl, hs, -⟩
  obtain ⟨g, g', rfl, -, -⟩ := takes_squared.mp hs
  have hspelled : Spelled (· == ' ') ((e.factor.product ++ [e.base.chars, ['^']]) ++
      (['x'] :: e.relation.operator.toList :: e.number.lead)) text := by
    have := l.spelled
    simp only [tokens, Unsigned.power] at this
    simpa using this
  obtain ⟨front, _, hsplit, hfront, sp, back, rfl, hsp, hback⟩ := spelled_append.mp hspelled
  have hx : 'x' ∉ front := by
    refine notMem_of_spelled (by decide) ?_ hfront
    intro s hs
    rcases List.mem_append.mp hs with hs | hs
    · exact notMem_product _ (by decide) (by decide) s hs
    · rcases List.mem_cons.mp hs with rfl | hs
      · exact notMem_chars _ (by decide) (by decide)
      · rw [List.mem_singleton.mp hs]
        decide
  have hcaret : '^' ∉ sp ++ back := by
    rw [List.mem_append, not_or]
    refine ⟨fun h => absurd (hsp _ h) (by decide), notMem_of_spelled (by decide) ?_ hback⟩
    intro s hs
    rcases List.mem_cons.mp hs with rfl | hs
    · cases e.relation <;> decide
    · exact notMem_lead _ (by decide) (by decide) s hs
  have heq : a ++ 'x' :: (g ++ '^' :: (g' ++ ['2'] ++ m ++ r)) = front ++ 'x' :: (sp ++ back) := by
    simpa using htext.symm.trans hsplit
  exact notMem_of_append_cons_eq heq hx hcaret (by simp)

/-- The kinds that stand before equations with powers look for characters that these do not
have, but for squares. -/
theorem lacks_powerAlphabet : ∀ kind ∈ Kind.all.takeWhile (· ≠ .simpleExponential),
    (if kind = .standardQuadratic then (recognizers kind).tail else recognizers kind).all
      (lacks (' ' :: '=' :: powerAlphabet)) = true := by
  decide +kernel

theorem TextAt.firstKind?_eq {s : String} (l : TextAt e s.toList) :
    firstKind? s = some e.kind := by
  rw [firstKind?_eq_some_iff, kind]
  split
  · rename_i heq
    refine ⟨stated_simpleExponential_iff.mpr (Or.inl (l.powerThen ?_)), ?_⟩
    · rw [heq]
      exact ⟨_, rfl⟩
    have halphabet : ∀ c ∈ s.toList, c ∈ ' ' :: '=' :: powerAlphabet := by
      intro c hc
      rcases mem_of_spelled l.spelled hc with hc | ⟨t, ht, hc⟩
      · obtain rfl : c = ' ' := by simpa using hc
        decide
      · rcases mem_tokens ht with rfl | ⟨-, ht⟩
        · rw [heq] at hc
          obtain rfl : c = '=' := List.mem_singleton.mp hc
          decide
        · simp [ht c hc]
    rintro k hk ⟨p, hp, hwithin⟩
    have hlacks := List.all_eq_true.mp (lacks_powerAlphabet k hk)
    have hother (hp : p ∈ if k = .standardQuadratic then (recognizers k).tail else recognizers k) :
        False :=
      not_within_of_lacks (hlacks p hp) halphabet hwithin
    by_cases hk : k = .standardQuadratic
    · subst hk
      rcases List.mem_cons.mp hp with rfl | hp
      · exact l.not_within_standardQuadratic hwithin
      · exact hother hp
    · exact hother (by rwa [if_neg hk])
  · rename_i hne
    refine ⟨stated_exponentialInequality_iff.mpr (Or.inl (l.powerThen ?_).of_digit), ?_⟩
    · rcases Relation.operator_cases e.relation_ne with ⟨heq, -⟩ | ⟨-, c, hc, h | h⟩
      · exact absurd heq hne
      · exact ⟨c, _, by rw [h]; rfl, hc⟩
      · exact ⟨c, _, by rw [h]; rfl, hc⟩
    · intro k hk
      cases hk

end Kind

section Values

variable {α : Type} [Scalar α]

theorem base?_record : Solve.base? (e.record : Params α) = some e.base.value := by
  rw [record]
  split <;> split <;> rfl

theorem number?_record : (e.record : Params α).number? e.numberKey = some e.number.coefficient := by
  rw [record, numberKey]
  split <;> split <;> rfl

theorem text?_operator_record : (e.record : Params α).text? "operator" =
    if e.relation = .eq then none else some e.relation.operator := by
  rw [record]
  split <;> split <;> rfl

theorem coefficientRead_record : coefficientRead (e.record : Params α) =
    if e.factor.factor.isSome then e.factor.coefficient else 1 := by
  rw [record]
  split <;> split <;> rfl

/-- The coefficient is what it is read as, unless it is a lone minus sign. -/
theorem coefficientRead_record_iff (hone : (1 : α) ≠ -1) :
    coefficientRead (e.record : Params α) = e.factor.coefficient ↔ ¬ e.IsLoneMinus := by
  rw [coefficientRead_record, IsLoneMinus]
  cases hn : e.factor.factor with
  | some n => simp
  | none =>
      by_cases hsign : e.factor.sign = some .minus
      · simp [Term.coefficient, hn, hsign, hone]
      · simp [Term.coefficient, hn, hsign]

end Values

section Parse

variable {text : String} (h : e.Writes text) (context : Option String)
include h

theorem exists_parseProblem_eq (α : Type) [Scalar α] : ∃ problem : Problem α,
    parseProblem ⟨some text, none, none, none, context⟩ = .ok problem ∧ problem.kind = e.kind ∧
      problem.parameters = e.record := by
  have hspelled := spelled_normalize h
  obtain ⟨l⟩ := nonempty_textAt hspelled
  have hne : normalize text ≠ "" :=
    ne_empty_of_spelled hspelled (t := ['x']) (by simp [tokens, Unsigned.power]) (by simp)
  have hkind : e.kind ≠ .exponentialQuadratic := by
    rw [kind]
    split <;> decide
  obtain ⟨problem, hparse, hproblem, hparameters⟩ :=
    parseProblem_of_firstKind? (α := α) context hne l.firstKind?_eq hkind
  refine ⟨problem, hparse, hproblem, ?_⟩
  rw [hparameters, kind]
  split
  · rename_i heq
    exact l.simpleExponential_eq heq
  · rename_i hne
    exact l.exponentialInequality_eq hne

/-- A relation with a power is always read, as the kind that its operator tells and with its
base, its number and its operator; its coefficient is read right if and only if it is not a
lone minus sign. -/
theorem parseProblem_reads_iff : ∃ problem : Problem Float,
    parseProblem ⟨some text, none, none, none, context⟩ = .ok problem ∧ problem.kind = e.kind ∧
      Solve.base? problem.parameters = some e.base.value ∧
      problem.parameters.number? e.numberKey = some e.number.coefficient ∧
      problem.parameters.text? "operator" =
        (if e.relation = .eq then none else some e.relation.operator) ∧
      (coefficientRead problem.parameters = e.factor.coefficient ↔ ¬ e.IsLoneMinus) := by
  obtain ⟨problem, hparse, hkind, hrecord⟩ := exists_parseProblem_eq h context Float
  refine ⟨problem, hparse, hkind, ?_⟩
  rw [hrecord]
  exact ⟨base?_record, number?_record, text?_operator_record,
    coefficientRead_record_iff (by decide +kernel)⟩

end Parse

/-- The relation of `-6*2^x >= 8.5`. -/
def minusSixTimesPower : PowerRelation where
  factor := .ofDigit (some .minus) '6' rfl .linear
  base := .ofDigits ['2'] [] rfl rfl
  relation := .ge
  number := ⟨none, some (.ofDigits ['8'] ['5'] rfl rfl), .constant, fun _ => rfl⟩
  relation_ne := nofun
  isSome_number := rfl

theorem parseProblem_minusSixTimesPower : minusSixTimesPower.Writes "-6*2^x >= 8.5" ∧
    ∃ problem : Problem Float, parseProblem ⟨some "-6*2^x >= 8.5", none, none, none, none⟩ =
      .ok problem ∧ problem.kind = .exponentialInequality ∧
      coefficientRead problem.parameters = minusSixTimesPower.factor.coefficient := by
  have hspelled : Spelled Text.isBlank minusSixTimesPower.tokens "-6*2^x >= 8.5".toList :=
    spelled_of_gaps [[], [], [], [], [], [' '], [' '], []] rfl (by decide) (by decide)
  have hwrites : minusSixTimesPower.Writes "-6*2^x >= 8.5" := hspelled.spaced
  obtain ⟨problem, hparse, hkind, -, -, -, hcoefficient⟩ := parseProblem_reads_iff hwrites none
  exact ⟨hwrites, problem, hparse, hkind, hcoefficient.mpr fun h => by cases h.1⟩

/-- The relation of `-2^x = -8`. -/
def minusPower : PowerRelation where
  factor := ⟨some .minus, none, .linear, by simp⟩
  base := .ofDigits ['2'] [] rfl rfl
  relation := .eq
  number := .ofDigit (some .minus) '8' rfl .constant
  relation_ne := nofun
  isSome_number := rfl

theorem not_reads_minusPower : minusPower.Writes "-2^x = -8" ∧
    ∃ problem : Problem Float, parseProblem ⟨some "-2^x = -8", none, none, none, none⟩ =
      .ok problem ∧ problem.kind = .simpleExponential ∧
      coefficientRead problem.parameters ≠ minusPower.factor.coefficient := by
  have hspelled : Spelled Text.isBlank minusPower.tokens "-2^x = -8".toList :=
    spelled_of_gaps [[], [], [], [' '], [' '], [], []] rfl (by decide) (by decide)
  have hwrites : minusPower.Writes "-2^x = -8" := hspelled.spaced
  obtain ⟨problem, hparse, hkind, hrecord⟩ := exists_parseProblem_eq hwrites none Float
  refine ⟨hwrites, problem, hparse, hkind, ?_⟩
  rw [hrecord, Ne, coefficientRead_record_iff (by decide +kernel), not_not]
  exact ⟨rfl, rfl⟩

end PowerRelation

end EquationTutor
