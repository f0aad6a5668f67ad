import EquationTutor.Proofs.Canonical.Endings
import EquationTutor.Proofs.Canonical.Values
import EquationTutor.Proofs.Polynomial.Records
import EquationTutor.Proofs.Reading.LinearTexts
/-!
Linear relations in their standard form, `m x + b` and a number. The shape reads all of them.
The recognizers ask for more: a constant must be a decimal that stands over nothing and has
a whole part, and the operator must not be `!=`. A relation of another form is refused.
-/

namespace EquationTutor

open PolynomialText Reading Pattern

namespace PolynomialText

theorem not_blank_of_decimal {cs : List Char} (h : Reading.Decimal cs) :
    ∀ c ∈ cs, Text.isBlank c = false := by
  intro c hc
  rcases mem_of_numeral (Or.inl h) c hc with hc | rfl
  · exact Text.not_blank_of_isDigit hc
  · rfl

theorem Ratio.decimal_chars_iff (r : Ratio) :
    Reading.Decimal r.chars ↔ r.below = none ∧ Reading.Decimal r.above := by
  cases hbelow : r.below with
  | none => simp [chars, hbelow]
  | some ds =>
      have hslash : '/' ∈ r.chars := by simp [chars, hbelow]
      refine iff_of_false (fun h => ?_) (by simp)
      exact absurd (mem_of_numeral (Or.inl h) _ hslash) (by decide)

theorem exists_solid_eq_of_signedDecimal {cs : List Char} (h : SignedDecimal cs) :
    ∃ mark decimal, solid cs = mark :: decimal ∧ Reading.Decimal decimal := by
  obtain ⟨mark, gap, decimal, gap', rfl, hmark, hgap, hdecimal, hgap'⟩ := h
  have hmarkblank : ∀ c ∈ [mark], Text.isBlank c = false := by
    rw [List.forall_mem_singleton]
    rcases hmark with rfl | rfl <;> decide
  refine ⟨mark, decimal, ?_, hdecimal⟩
  rw [← List.singleton_append, solid_append, solid_append, solid_append,
    solid_of_not_blank hmarkblank, solid_of_not_blank (not_blank_of_decimal hdecimal),
    solid_of_allBlank hgap, solid_of_allBlank hgap', List.nil_append, List.append_nil,
    List.singleton_append]

theorem notMem_relationChars_of_signedDecimal {cs : List Char} (h : SignedDecimal cs) :
    ∀ c ∈ cs, c ∉ relationChars := by
  obtain ⟨mark, gap, decimal, gap', rfl, hmark, hgap, hdecimal, hgap'⟩ := h
  intro c hc
  simp only [List.mem_cons, List.mem_append] at hc
  rcases hc with rfl | (hc | hc) | hc
  · rcases hmark with rfl | rfl <;> decide
  · exact (quiet_of_allBlank hgap c hc).notMem_relationChars
  · exact (quiet_of_decimal hdecimal c hc).notMem_relationChars
  · exact (quiet_of_allBlank hgap' c hc).notMem_relationChars

namespace Ending

variable (e : Ending)

/-- The constant, if there is one, is a decimal: it has a whole part and stands over nothing. -/
def HasDecimalConstant : Prop :=
  ∀ k ∈ e.constant, ∀ r ∈ k.size, r.below = none ∧ Reading.Decimal r.above

variable {e} {cs : List Char}

theorem constant_cases (e : Ending) : e.constant = none ∧ e.constantTokens = [] ∨
    ∃ k r, ∃ s : Sign, e.constant = some k ∧ k.size = some r ∧
      e.constantTokens = [[s.char], r.chars] := by
  cases hconstant : e.constant with
  | none => exact Or.inl ⟨rfl, by rw [constantTokens, hconstant, Option.elim_none]⟩
  | some k =>
      obtain ⟨s, hs⟩ := Option.isSome_iff_exists.mp (e.isSome_sign_constant k hconstant)
      obtain ⟨r, hr⟩ := Option.isSome_iff_exists.mp (e.isSome_size_constant k hconstant)
      refine Or.inr ⟨k, r, s, rfl, hr, ?_⟩
      simp [constantTokens, hconstant, Coefficient.tokens, Coefficient.mark, Coefficient.body, hs,
        hr]

/-- The constant can be passed over exactly if it is a decimal. -/
theorem hasDecimalConstant_iff (h : Near e.constantTokens cs) : e.HasDecimalConstant ↔
    ∃ gap term, cs = gap ++ term ∧ AllBlank gap ∧ (term = [] ∨ SignedDecimal term) := by
  obtain ⟨g, rest, rfl, hg, hrest⟩ := id h
  have hblank : AllBlank g := allBlank_of_eq_space (by simpa using hg)
  rw [HasDecimalConstant]
  rcases e.constant_cases with ⟨hnone, htokens⟩ | ⟨k, r, s, hconstant, hsize, htokens⟩
  · rw [htokens] at hrest
    simp only [hnone, Option.not_mem_none, false_imp_iff, implies_true, true_iff]
    exact ⟨g, rest, rfl, hblank, Or.inl hrest⟩
  · simp only [hconstant, hsize, Option.mem_def, Option.some.injEq, forall_eq',
      ← r.decimal_chars_iff]
    constructor
    · intro hdecimal
      rw [htokens] at hrest
      obtain ⟨g₁, _, rfl, hg₁, g₂, _, rfl, hg₂, rfl⟩ := hrest
      exact ⟨g, _, rfl, hblank, Or.inr ⟨s.char, g₁, r.chars, g₂, by simp, s.char_mem,
        allBlank_of_eq_space (by simpa using hg₁), hdecimal,
        allBlank_of_eq_space (by simpa using hg₂)⟩⟩
    · rintro ⟨gap, term, heq, hgap, hterm⟩
      have hsolid : solid term = s.char :: r.chars := by
        have hnear := h.solid_eq e.tokens_constantTokens
        rw [heq, solid_append, solid_of_allBlank hgap, List.nil_append, htokens] at hnear
        simpa using hnear
      rcases hterm with rfl | hterm
      · cases hsolid
      · obtain ⟨mark, decimal, hsolid', hdecimal⟩ := exists_solid_eq_of_signedDecimal hterm
        rw [hsolid] at hsolid'
        rwa [(List.cons.inj hsolid').2]

theorem notMem_relationChars_of_near (h : Near e.constantTokens cs) :
    ∀ c ∈ cs, c ∉ relationChars := by
  have hquiet : ∀ c ∈ relationChars, Text.isDigit c = false ∧ c ∉ ' ' :: Coefficient.symbols :=
    List.all_iff_forall_prop.mp (by decide)
  intro c hc hrelation
  obtain ⟨hdigit, hsymbols⟩ := hquiet c hrelation
  rcases h.mem_flatten hc with rfl | hc
  · exact hsymbols List.mem_cons_self
  · rcases e.mem_constantTokens hc with h | h
    · rw [hdigit] at h
      cases h
    · exact hsymbols (List.mem_cons_of_mem _ h)

theorem startsWithOrder_iff (r : Relation) (cs : List Char) :
    StartsWithOrder (r.operator.toList ++ cs) ↔ r ≠ .eq ∧ r ≠ .ne := by
  cases r <;> simp [StartsWithOrder, Relation.operator]

theorem startsWithValue_iff (h : Near e.right.tokens cs) :
    StartsWithValue (e.relation.operator.toList ++ cs) ↔ e.relation = .eq := by
  constructor
  · rintro ⟨gap, mark, gap', point, digit, rest, heq, -⟩
    revert heq
    cases e.relation <;> simp [Relation.operator]
  · intro heq
    obtain ⟨_, rest, rfl, htakes⟩ := (e.reads_right 1).exists_takes h
    simp only [cat, takes_seq, takes_blanks, takes_group] at htakes
    obtain ⟨gap, _, rfl, hgap, hnumber⟩ := htakes
    obtain ⟨mark, gap', point, digit, left, rfl, hmark, hgap', hpoint, hdigit⟩ :=
      exists_digit_of_takes_signedNumber hnumber
    exact ⟨gap, mark, gap', point, digit, left ++ rest, by simp [heq, Relation.operator], hgap,
      hmark, hgap', hpoint, hdigit⟩

end Ending

end PolynomialText

/-- A linear relation in standard form, as it is written. -/
structure CanonicalLinear where
  slope : Coefficient
  ending : Ending

namespace CanonicalLinear

variable (l : CanonicalLinear)

def tokens : List (List Char) :=
  l.slope.tokens ++ ['x'] :: l.ending.tokens

def caught : List (Nat × (List Char → Prop)) :=
  (1, l.slope.Spells) :: l.ending.caught 2 3 4

theorem tokens_behindSlope : Tokens (['x'] :: l.ending.tokens) :=
  tokens_cons (by decide) l.ending.tokens_tokens

theorem tokens_tokens : Tokens l.tokens :=
  tokens_append.mpr ⟨l.slope.tokens_tokens, l.tokens_behindSlope⟩

theorem reads : Shape.linear.Reads (At l.tokens) (Near []) l.caught := by
  have hbehind := l.tokens_behindSlope
  have hx : ∀ c ∈ (['x'] :: l.ending.tokens).flatten.head?, c ∈ Coefficient.enders ∧ c ≠ '*' := by
    intro c hc
    obtain rfl : 'x' = c := by simpa using hc
    decide
  have hcoefficient : (group 1 coefficient).Reads (At l.tokens) (Near (['x'] :: l.ending.tokens))
      [(1, l.slope.Spells)] := fun before cs g hcs =>
    l.slope.reads_coefficient hbehind (fun c hc => (hx c hc).1) 1 before cs g (Or.inl hcs)
  have hvariable := reads_variable l.ending.tokens_tokens fun c hc =>
    not_isWordChar_of_mem c (l.ending.head?_tokens c hc)
  exact reads_seq hcoefficient (reads_then (reads_times false hbehind fun c hc => (hx c hc).2)
    (reads_seq_assoc (reads_then hvariable (l.ending.reads_behindX 2 3 4))))

theorem linear_eq {α : Type} [Scalar α] {s : String} (h : At l.tokens s.toList) :
    (linear s : Params α) = linearRecord (parseCoefficient l.slope.text)
      (parseTerm (l.ending.constant.map Coefficient.text)) (parseCoefficient l.ending.right.text)
      l.ending.relation := by
  obtain ⟨m, hfind, hcatches⟩ := l.reads.find? h
  have hconstant : l.caught.lookup 2 = l.ending.constant.map Coefficient.Spells := by
    rw [caught, Ending.caught]
    cases l.ending.constant <;> rfl
  have hrest : l.caught.lookup 3 = some (· = l.ending.relation.operator.toList) ∧
      l.caught.lookup 4 = some l.ending.right.Spells := by
    rw [caught, Ending.caught]
    cases l.ending.constant <;> exact ⟨rfl, rfl⟩
  rw [linear, fromShape, hfind]
  simp only [hcatches.group_eq hrest.1, String.ofList_toList]
  rw [Coefficient.coefficientAt_of_catches hcatches rfl,
    Coefficient.termAt_of_catches hcatches hconstant,
    Coefficient.coefficientAt_of_catches hcatches hrest.2]
  rfl

section Kind

def textAlphabet : List Char :=
  ' ' :: 'x' :: (relationChars ++ (Coefficient.symbols ++ digitChars))

theorem mem_tokens : ∀ c ∈ l.tokens.flatten, c ∈ textAlphabet ∨ Text.isDigit c = true := by
  have hcoefficient {c : Char} (h : Text.isDigit c = true ∨ c ∈ Coefficient.symbols) :
      c ∈ textAlphabet ∨ Text.isDigit c = true :=
    (h.imp_right fun hc => by simp [textAlphabet, hc]).symm
  intro c h
  simp only [tokens, List.flatten_append, List.flatten_cons, List.mem_append,
    List.mem_singleton] at h
  rcases h with h | rfl | h
  · exact hcoefficient (l.slope.mem_flatten h)
  · exact Or.inl (by decide)
  · rcases l.ending.mem_tokens h with h | h
    · exact Or.inl (by simp [textAlphabet, (l.ending.relation.of_mem_operator c h).1])
    · exact hcoefficient h

/-- The linear kinds are the only ones that ask for what a linear relation has. -/
theorem lacks_others {kind : Kind} (hinequality : kind ≠ .linearInequality)
    (hequation : kind ≠ .simpleLinear) :
    (recognizers kind).all (lacks textAlphabet) = true := by
  revert hinequality hequation
  cases kind <;> decide +kernel

theorem lacks_phrases :
    (phrase ["linear", "inequalit"]).lacks textAlphabet = true ∧
      (phrase ["linear", "equation"]).lacks textAlphabet = true := by
  decide +kernel

section Stated

variable {l} {cs : List Char} (h : At l.tokens cs)
include h

theorem not_within {kind : Kind} {p : Pattern} (hp : p ∈ recognizers kind)
    (hlacks : p.lacks textAlphabet = true) : ¬ p.Within cs :=
  not_within_of_at l.mem_tokens h hp (by decide) hlacks

theorem not_stated {kind : Kind} (hinequality : kind ≠ .linearInequality)
    (hequation : kind ≠ .simpleLinear) : ¬ Stated kind cs := by
  rintro ⟨p, hp, hwithin⟩
  exact not_within h hp (List.all_eq_true.mp (lacks_others hinequality hequation) p hp) hwithin

/-- The text is split at its only `x` and at its operator. -/
theorem exists_eq_of_at : ∃ before constant right,
    cs = before ++ 'x' :: (constant ++ (l.ending.relation.operator.toList ++ right)) ∧
      'x' ∉ before ∧ 'x' ∉ constant ++ (l.ending.relation.operator.toList ++ right) ∧
      Near l.ending.constantTokens constant ∧ Near l.ending.right.tokens right := by
  obtain ⟨before, _, rfl, hbefore, g, rest, rfl, hg, hend⟩ := spelled_append.mp h
  have hnear : Near l.ending.tokens (g ++ rest) := ⟨g, rest, rfl, hg, hend⟩
  have hx : 'x' ∉ g ++ rest := by
    intro hmem
    rcases hnear.mem_flatten hmem with hx | hx
    · exact absurd hx (by decide)
    · exact l.ending.notMem_tokens (by decide) (by decide) (by decide) hx
  obtain ⟨constant, _, rfl, hconstant, g', right, rfl, hg', hright⟩ := spelled_append.mp hend
  refine ⟨before, g ++ constant, g' ++ right, by simp, fun hmem => ?_, by simpa using hx,
    ⟨g, constant, rfl, hg, hconstant⟩, ⟨g', right, rfl, hg', hright⟩⟩
  rcases At.mem_flatten hbefore hmem with hx | hx
  · exact absurd hx (by decide)
  · exact l.slope.notMem_flatten (by decide) (by decide) hx

theorem xThen_iff {follows : List Char → Prop} {holds : Prop}
    (hstarts : ∀ rest, follows rest → ∀ c ∈ rest.head?, c ∈ relationChars)
    (hfollows : ∀ right, Near l.ending.right.tokens right →
      (follows (l.ending.relation.operator.toList ++ right) ↔ holds)) :
    XThen follows cs ↔ l.ending.HasDecimalConstant ∧ holds := by
  obtain ⟨before, constant, right, rfl, hbefore, hbehind, hconstant, hright⟩ := exists_eq_of_at h
  rw [Ending.hasDecimalConstant_iff hconstant]
  constructor
  · rintro ⟨before', gap, term, rest, heq, hgap, hterm, hrest⟩
    obtain ⟨-, -, htail⟩ := (List.append_cons_inj_of_notMem hbefore hbehind).mp heq
    have hbetween : ∀ c ∈ gap ++ term, c ∉ relationChars := by
      intro c hc
      rcases List.mem_append.mp hc with hc | hc
      · exact (quiet_of_allBlank hgap c hc).notMem_relationChars
      · rcases hterm with rfl | hterm
        · cases hc
        · exact notMem_relationChars_of_signedDecimal hterm c hc
    obtain ⟨rfl, rfl⟩ := append_inj_of_first (P := (· ∈ relationChars)) htail
      (Ending.notMem_relationChars_of_near hconstant) hbetween
      (fun c hc => (l.ending.relation.head_operator right c hc).1) (hstarts rest hrest)
    exact ⟨⟨gap, term, rfl, hgap, hterm⟩, (hfollows right hright).mp hrest⟩
  · rintro ⟨⟨gap, term, rfl, hgap, hterm⟩, hholds⟩
    exact ⟨before, gap, term, _, rfl, hgap, hterm, (hfollows right hright).mpr hholds⟩

theorem stated_linearInequality_iff : Stated .linearInequality cs ↔
    l.ending.HasDecimalConstant ∧ l.ending.relation ≠ .eq ∧ l.ending.relation ≠ .ne := by
  have hphrase : phrase ["linear", "inequalit"] ∈ recognizers .linearInequality :=
    List.mem_cons_of_mem _ List.mem_cons_self
  rw [Reading.stated_linearInequality_iff, or_iff_left (not_within h hphrase lacks_phrases.1)]
  refine xThen_iff h ?_ fun right _ => Ending.startsWithOrder_iff _ right
  rintro _ ⟨c, rest, rfl, hc⟩ _ ⟨⟩
  rcases hc with rfl | rfl <;> decide

theorem stated_simpleLinear_iff : Stated .simpleLinear cs ↔
    l.ending.HasDecimalConstant ∧ l.ending.relation = .eq := by
  have hphrase : phrase ["linear", "equation"] ∈ recognizers .simpleLinear :=
    List.mem_cons_of_mem _ List.mem_cons_self
  rw [Reading.stated_simpleLinear_iff, or_iff_left (not_within h hphrase lacks_phrases.2)]
  refine xThen_iff h ?_ fun right hright => Ending.startsWithValue_iff hright
  rintro _ ⟨gap, mark, gap', point, digit, rest, rfl, -⟩ _ ⟨⟩
  decide

end Stated

/-- The recognizers see the relation: an operator that they know stands behind the `x`, with
at most a decimal constant between them. -/
def Recognizable : Prop :=
  l.ending.relation ≠ .ne ∧ l.ending.HasDecimalConstant

def kind : Kind :=
  if l.ending.relation = .eq then .simpleLinear else .linearInequality

variable {l} {s : String} (h : At l.tokens s.toList)
include h

theorem firstKind?_eq_some (hrecognizable : l.Recognizable) : firstKind? s = some l.kind := by
  obtain ⟨hne, hdecimal⟩ := hrecognizable
  rw [firstKind?_eq_some_iff, kind]
  by_cases heq : l.ending.relation = .eq
  · rw [if_pos heq]
    refine ⟨(stated_simpleLinear_iff h).mpr ⟨hdecimal, heq⟩, fun kind hkind => ?_⟩
    by_cases hinequality : kind = .linearInequality
    · rw [hinequality, stated_linearInequality_iff h]
      exact fun hstated => hstated.2.1 heq
    · have hequation : kind ≠ .simpleLinear := by simpa using List.mem_takeWhile_imp hkind
      exact not_stated h hinequality hequation
  · rw [if_neg heq]
    refine ⟨(stated_linearInequality_iff h).mpr ⟨hdecimal, heq, hne⟩, fun kind hkind => ?_⟩
    have hothers : kind ≠ .linearInequality ∧ kind ≠ .simpleLinear := by
      revert hkind
      cases kind <;> decide
    exact not_stated h hothers.1 hothers.2

theorem firstKind?_eq_none (hnot : ¬ l.Recognizable) : firstKind? s = none := by
  rw [firstKind?_eq_none_iff]
  intro kind hstated
  by_cases hinequality : kind = .linearInequality
  · rw [hinequality, stated_linearInequality_iff h] at hstated
    exact hnot ⟨hstated.2.2, hstated.1⟩
  · by_cases hequation : kind = .simpleLinear
    · rw [hequation, stated_simpleLinear_iff h] at hstated
      exact hnot ⟨by simp [hstated.2], hstated.1⟩
    · exact not_stated h hinequality hequation hstated

end Kind

section Parse

variable {l} {α : Type} [Scalar α]

/-- The parameters that are written. -/
def entries (l : CanonicalLinear) (α : Type) [Scalar α] : List (String × ParamValue α) :=
  [("b", .number (parseTerm (l.ending.constant.map Coefficient.text))),
    ("c", .number (parseCoefficient l.ending.right.text)),
    ("m", .number (parseCoefficient l.slope.text))] ++ operatorEntries α l.ending.relation

/-- The parameters by the numbers that they stand for; no constant is zero. -/
def values (l : CanonicalLinear) (α : Type) [Scalar α] : List (String × ParamValue α) :=
  [("b", .number (l.ending.constant.elim 0 Coefficient.value)),
    ("c", .number l.ending.right.value), ("m", .number l.slope.value)] ++
    operatorEntries α l.ending.relation

theorem entries_eq_values (hplain : PlainDigits l.tokens.flatten) : l.entries α = l.values α := by
  have hslope : PlainDigits l.slope.tokens.flatten := fun c hc =>
    hplain c (by simp [tokens, hc])
  have hright : PlainDigits l.ending.right.tokens.flatten := fun c hc =>
    hplain c (by simp [tokens, Ending.tokens, Ending.rightTokens, hc])
  have hconstant : parseTerm (l.ending.constant.map Coefficient.text) =
      (l.ending.constant.elim 0 Coefficient.value : α) := by
    cases hk : l.ending.constant with
    | none => rfl
    | some k =>
        have hplainConstant : PlainDigits k.tokens.flatten := fun c hc =>
          hplain c (by simp [tokens, Ending.tokens, Ending.constantTokens, hk, hc])
        exact k.parseCoefficient_text hplainConstant
  rw [entries, values, hconstant, l.slope.parseCoefficient_text hslope,
    l.ending.right.parseCoefficient_text hright]

section Text

variable {text : String} (h : Spaced Text.isBlank l.tokens text.toList)
include h

theorem at_normalize : At l.tokens (normalize text).toList := by
  have hstar : '*' ∉ l.tokens.flatten := by
    intro hmem
    rcases l.mem_tokens _ hmem with h | h <;> revert h <;> decide
  refine PolynomialText.at_normalize l.mem_tokens l.tokens_tokens
    (List.all_iff_forall_prop.mp (by decide)) (apart_of_count_le ?_) h
  rw [List.count_eq_zero.mpr hstar]
  exact Nat.zero_le 1

theorem normalize_ne_empty : normalize text ≠ "" := by
  have hx : ['x'] ∈ l.tokens := by simp [tokens]
  exact ne_empty_of_spelled (at_normalize h) hx (List.cons_ne_nil _ _)

/-- The extraction takes all numbers and the operator, whatever the recognizers say. -/
theorem entries_linear_normalize :
    (linear (normalize text) : Params α).entries = l.entries α := by
  rw [l.linear_eq (at_normalize h), entries_linearRecord, entries]

variable (context : Option String)

theorem exists_parseProblem_ok (hrecognizable : l.Recognizable) :
    ∃ problem : Problem α, parseProblem ⟨some text, none, none, none, context⟩ = .ok problem ∧
      problem.kind = l.kind ∧ problem.parameters.entries = l.entries α := by
  obtain ⟨problem, hparse, hkind, hparameters⟩ := parseProblem_of_firstKind? (α := α) context
    (normalize_ne_empty h) (firstKind?_eq_some (at_normalize h) hrecognizable)
    (by rw [kind]; split <;> decide)
  have hextract : extract l.kind (normalize text) none = (linear (normalize text) : Params α) := by
    rw [kind]
    split <;> rfl
  exact ⟨problem, hparse, hkind, by rw [hparameters, hextract, entries_linear_normalize h]⟩

theorem parseProblem_error (hnot : ¬ l.Recognizable) :
    parseProblem (⟨some text, none, none, none, context⟩ : Question α) =
      .error (.unrecognized (normalize text)) :=
  parseProblem_of_firstKind?_eq_none context (normalize_ne_empty h)
    (firstKind?_eq_none (at_normalize h) hnot)

/-- A linear relation in standard form is read as it is written if and only if the recognizers
see it. It is refused otherwise, although the extraction reads it. -/
theorem parseProblem_canonicalLinear_iff :
    ((∃ problem : Problem α, parseProblem ⟨some text, none, none, none, context⟩ = .ok problem ∧
        problem.kind = (if l.ending.relation = .eq then .simpleLinear else .linearInequality) ∧
        problem.parameters.entries = l.entries α) ↔ l.Recognizable) ∧
      (¬ l.Recognizable →
        parseProblem (⟨some text, none, none, none, context⟩ : Question α) =
          .error (.unrecognized (normalize text))) ∧
      (linear (normalize text) : Params α).entries = l.entries α ∧
      (PlainDigits l.tokens.flatten → l.entries α = l.values α) := by
  refine ⟨⟨?_, exists_parseProblem_ok h context⟩, parseProblem_error h context,
    entries_linear_normalize h, entries_eq_values⟩
  rintro ⟨problem, hparse, -⟩
  by_contra hnot
  rw [parseProblem_error h context hnot] at hparse
  cases hparse

end Text

end Parse

theorem decimal_threeAndHalf : Reading.Decimal ['3', '.', '5'] :=
  ⟨['3'], ['.', '5'], rfl, digits_singleton rfl, Or.inr ⟨['5'], rfl, digits_singleton rfl⟩⟩

/-- The relation of `-1/2x - 3.5 >= 7/3`. -/
def minusHalf : CanonicalLinear where
  slope := ⟨some .minus, some .half⟩
  ending :=
    { constant := some ⟨some .minus, some (.ofNumeral _ (Or.inl decimal_threeAndHalf))⟩
      relation := .ge
      right := ⟨none, some ⟨['7'], some ['3'], numeral_of_digits (digits_singleton rfl),
        by simpa using digits_singleton rfl⟩⟩
      isSome_sign_constant := by simp
      isSome_size_constant := by simp
      isSome_size_right := rfl }

theorem recognizable_minusHalf : minusHalf.Recognizable := by
  refine ⟨by decide, ?_⟩
  rintro _ ⟨⟩ _ ⟨⟩
  exact ⟨rfl, decimal_threeAndHalf⟩

theorem parseProblem_minusHalf :
    Spaced Text.isBlank minusHalf.tokens "-1/2x - 3.5 >= 7/3".toList ∧
    ∃ problem : Problem Float,
      parseProblem ⟨some "-1/2x - 3.5 >= 7/3", none, none, none, none⟩ = .ok problem ∧
      problem.kind = .linearInequality ∧ problem.parameters.entries =
        [("b", .number (parseTerm (some "-3.5"))), ("c", .number (parseCoefficient "7/3")),
          ("m", .number (parseCoefficient "-1/2")), ("operator", .text ">=")] := by
  have hspelled : Spelled Text.isBlank minusHalf.tokens "-1/2x - 3.5 >= 7/3".toList :=
    spelled_of_gaps [[], [], [' '], [' '], [' '], [' '], []] rfl (by decide) (by decide)
  exact ⟨hspelled.spaced,
    (parseProblem_canonicalLinear_iff hspelled.spaced none).1.mpr recognizable_minusHalf⟩

theorem isDigit_three : Text.isDigit '3' = true := rfl

/-- The relation of `x + 1/2 = 3`. -/
def plusHalf : CanonicalLinear where
  slope := ⟨none, none⟩
  ending :=
    { constant := some ⟨some .plus, some .half⟩
      relation := .eq
      right := ⟨none, some (.ofDigit '3' isDigit_three)⟩
      isSome_sign_constant := by simp
      isSome_size_constant := by simp
      isSome_size_right := rfl }

/-- A fraction behind the `x` is refused, although its record is extracted. -/
theorem unrecognized_plusHalf :
    Spaced Text.isBlank plusHalf.tokens "x + 1/2 = 3".toList ∧
      parseProblem (⟨some "x + 1/2 = 3", none, none, none, none⟩ : Question Float) =
        .error (.unrecognized (normalize "x + 1/2 = 3")) ∧
      (linear (normalize "x + 1/2 = 3") : Params Float).entries =
        [("b", .number (parseTerm (some "+1/2"))), ("c", .number (parseCoefficient "3")),
          ("m", .number (parseCoefficient ""))] := by
  have hspelled : Spelled Text.isBlank plusHalf.tokens "x + 1/2 = 3".toList :=
    spelled_of_gaps [[' '], [' '], [' '], [' '], []] rfl (by decide) (by decide)
  have hnot : ¬ plusHalf.Recognizable := by
    rintro ⟨-, hdecimal⟩
    cases (hdecimal _ rfl _ rfl).1
  exact ⟨hspelled.spaced, parseProblem_error hspelled.spaced none hnot,
    entries_linear_normalize hspelled.spaced⟩

end CanonicalLinear

end EquationTutor
