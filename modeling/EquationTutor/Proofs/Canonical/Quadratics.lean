import EquationTutor.Proofs.Canonical.Endings
import EquationTutor.Proofs.Polynomial.Records

namespace EquationTutor

open PolynomialText Reading Pattern

namespace PolynomialText

/-- A coefficient in front of a variable, and whether a star stands between them. -/
structure Multiple where
  coefficient : Coefficient
  starred : Bool

namespace Multiple

def star (m : Multiple) : List (List Char) :=
  starTokens m.starred

def tokens (m : Multiple) : List (List Char) :=
  m.coefficient.tokens ++ m.star

variable (m : Multiple)

theorem mem_flatten {c : Char} (h : c ∈ m.tokens.flatten) :
    Text.isDigit c = true ∨ c ∈ '*' :: Coefficient.symbols := by
  rw [tokens, List.flatten_append] at h
  rcases List.mem_append.mp h with h | h
  · exact (m.coefficient.mem_flatten h).imp_right (List.mem_cons_of_mem _)
  · obtain ⟨t, ht, hct⟩ := List.mem_flatten.mp h
    rw [mem_starTokens ht] at hct
    rw [List.mem_singleton.mp hct]
    exact Or.inr List.mem_cons_self

theorem followed_star {cs : List Char} (hcs : '*' ∉ cs) :
    Followed '*' 'x' (m.tokens.flatten ++ 'x' :: cs) := by
  have hx : '*' ∉ 'x' :: cs := by simpa using hcs
  rw [tokens, List.flatten_append, List.append_assoc]
  refine (followed_of_notMem (m.coefficient.notMem_flatten (by decide) (by decide))).append ?_
  rw [star]
  rcases starTokens_cases m.starred with hstar | hstar <;> rw [hstar]
  · exact followed_of_notMem hx
  · exact followed_cons_cons (by decide) hcs

theorem notMem_caret : '^' ∉ m.tokens.flatten := by
  intro h
  rcases m.mem_flatten h with h | h <;> revert h <;> decide

end Multiple

def squareTokens : List (List Char) :=
  [['x'], ['^'], ['2']]

theorem reads_squared {us : List (List Char)} (hus : Tokens us) :
    (squared 'x').Reads (At (squareTokens ++ us)) (Near us) [] := by
  have htwo : Tokens (['2'] :: us) := tokens_cons (by decide) hus
  have hcaret : Tokens (['^'] :: ['2'] :: us) := tokens_cons (by decide) htwo
  exact reads_then (reads_char hcaret 'x') (reads_then (reads_blanks hcaret)
    (reads_then (reads_char htwo '^') (reads_then (reads_blanks htwo) (reads_char hus '2'))))

end PolynomialText

/-- A quadratic relation in standard form, as it is written. -/
structure CanonicalQuadratic where
  square : Multiple
  linear : Option Multiple
  constant : Option Coefficient
  relation : Relation
  right : Coefficient
  isSome_sign_linear : ∀ m ∈ linear, m.coefficient.sign.isSome = true
  isSome_sign_constant : ∀ c ∈ constant, c.sign.isSome = true
  isSome_size_constant : ∀ c ∈ constant, c.size.isSome = true
  isSome_size_right : right.size.isSome = true

namespace CanonicalQuadratic

variable (q : CanonicalQuadratic)

def linearTokens : List (List Char) :=
  q.linear.elim [] fun m => m.tokens ++ [['x']]

def constantTokens : List (List Char) :=
  q.constant.elim [] Coefficient.tokens

def rightTokens : List (List Char) :=
  q.relation.operator.toList :: q.right.tokens

def tokens : List (List Char) :=
  q.square.tokens ++ (squareTokens ++ (q.linearTokens ++ (q.constantTokens ++ q.rightTokens)))

def caught : List (Nat × (List Char → Prop)) :=
  [(1, q.square.coefficient.Spells)] ++
    (q.linear.toList.map (fun m => (2, m.coefficient.Spells)) ++
      (q.constant.toList.map (fun c => (3, c.Spells)) ++
        [(4, (· = q.relation.operator.toList)), (5, q.right.Spells)]))

def ending : Ending where
  constant := q.constant
  relation := q.relation
  right := q.right
  isSome_sign_constant := q.isSome_sign_constant
  isSome_size_constant := q.isSome_size_constant
  isSome_size_right := q.isSome_size_right

theorem mem_linearTokens {c : Char} (h : c ∈ q.linearTokens.flatten) :
    Text.isDigit c = true ∨ c ∈ 'x' :: '*' :: Coefficient.symbols := by
  rw [linearTokens] at h
  cases hlinear : q.linear with
  | none =>
      rw [hlinear] at h
      cases h
  | some m =>
      rw [hlinear, Option.elim_some, List.flatten_append] at h
      rcases List.mem_append.mp h with h | h
      · exact (m.mem_flatten h).imp_right (List.mem_cons_of_mem _)
      · obtain rfl : c = 'x' := by simpa using h
        exact Or.inr List.mem_cons_self

section Tokens

theorem tokens_linearTokens : Tokens q.linearTokens := by
  rw [linearTokens]
  cases q.linear with
  | none => exact tokens_nil
  | some m =>
      exact tokens_append.mpr ⟨tokens_append.mpr ⟨m.coefficient.tokens_tokens, tokens_starTokens _⟩,
        tokens_cons (by decide) tokens_nil⟩

theorem tokens_behindSquare : Tokens (q.linearTokens ++ (q.constantTokens ++ q.rightTokens)) :=
  tokens_append.mpr ⟨q.tokens_linearTokens, q.ending.tokens_tokens⟩

theorem tokens_square {us : List (List Char)} (hus : Tokens us) : Tokens (squareTokens ++ us) :=
  tokens_cons (by decide) (tokens_cons (by decide) (tokens_cons (by decide) hus))

theorem tokens_tokens : Tokens q.tokens :=
  tokens_append.mpr ⟨tokens_append.mpr ⟨q.square.coefficient.tokens_tokens, tokens_starTokens _⟩,
    tokens_square q.tokens_behindSquare⟩

end Tokens

section Reads

theorem reads_linear : (optional linearPart).Reads
    (At (q.linearTokens ++ (q.constantTokens ++ q.rightTokens)))
    (Near (q.constantTokens ++ q.rightTokens))
    (q.linear.toList.map fun m => (2, m.coefficient.Spells)) := by
  have hus : Tokens (q.constantTokens ++ q.rightTokens) := q.ending.tokens_tokens
  rw [linearTokens]
  cases hlinear : q.linear with
  | none =>
      refine reads_optional_of_refuses (fun before cs hcs => ?_) fun cs hcs => hcs.spaced
      intro taken left hsplit htakes
      obtain ⟨c, m, rfl, -, -⟩ := exists_of_takes_linearPart htakes
      have hx : 'x' ∈ solid cs := by
        rw [hsplit, solid, List.mem_filter]
        exact ⟨by simp, by decide⟩
      rw [Near.solid_eq hus (Spelled.spaced hcs)] at hx
      exact q.ending.notMem_tokens (by decide) (by decide) (by decide) hx
  | some m =>
      have hvariable := tokens_cons (c := 'x') (by decide) hus
      have hstar : Tokens (m.star ++ ['x'] :: (q.constantTokens ++ q.rightTokens)) :=
        tokens_append.mpr ⟨tokens_starTokens _, hvariable⟩
      have htokens : m.tokens ++ [['x']] ++ (q.constantTokens ++ q.rightTokens) =
          m.coefficient.tokens ++ (m.star ++ ['x'] :: (q.constantTokens ++ q.rightTokens)) := by
        simp [Multiple.tokens]
      rw [Option.elim_some, htokens]
      exact reads_optional (reads_seq
        (m.coefficient.reads_signedCoefficient hstar (mem_enders_of_head? m.starred (by decide) _)
          (q.isSome_sign_linear m hlinear) 2)
        (reads_then (reads_times m.starred hvariable fun c hc => by
            obtain rfl : 'x' = c := by simpa using hc
            decide)
          (reads_variable hus fun c hc =>
            not_isWordChar_of_mem c (q.ending.head?_tokens c hc))))

theorem reads : Shape.quadratic.Reads (At q.tokens) (Near []) q.caught := by
  have hbehind := q.tokens_behindSquare
  have hsquare := tokens_square hbehind
  have hx : ∀ c ∈ (squareTokens ++
      (q.linearTokens ++ (q.constantTokens ++ q.rightTokens))).flatten.head?, c ≠ '*' := by
    intro c hc
    obtain rfl : 'x' = c := by simpa [squareTokens] using hc
    decide
  have hcoefficient : (group 1 coefficient).Reads (At q.tokens) (Near (q.square.star ++
      (squareTokens ++ (q.linearTokens ++ (q.constantTokens ++ q.rightTokens)))))
      [(1, q.square.coefficient.Spells)] := by
    intro before cs g hcs
    refine q.square.coefficient.reads_coefficient
      (tokens_append.mpr ⟨tokens_starTokens _, hsquare⟩)
      (mem_enders_of_head? q.square.starred (by decide) _) 1 before cs g (Or.inl ?_)
    rwa [← List.append_assoc]
  exact reads_seq hcoefficient (reads_then (reads_times q.square.starred hsquare hx)
    (reads_then (reads_squared hbehind) (reads_then (reads_blanks hbehind)
      (reads_seq q.reads_linear (q.ending.reads_behindX 3 4 5)))))

end Reads

theorem quadratic_eq {α : Type} [Scalar α] {s : String} (h : At q.tokens s.toList) :
    (quadratic s : Params α) = quadraticRecord (parseCoefficient q.square.coefficient.text)
      (parseTerm (q.linear.map fun m => m.coefficient.text))
      (parseTerm (q.constant.map Coefficient.text) - parseCoefficient q.right.text)
      q.relation := by
  obtain ⟨m, hfind, hcatches⟩ := q.reads.find? h
  have hlinear : q.caught.lookup 2 =
      (q.linear.map Multiple.coefficient).map Coefficient.Spells := by
    rw [caught]
    cases q.linear <;> cases q.constant <;> rfl
  have hconstant : q.caught.lookup 3 = q.constant.map Coefficient.Spells := by
    rw [caught]
    cases q.linear <;> cases q.constant <;> rfl
  have hrest : q.caught.lookup 4 = some (· = q.relation.operator.toList) ∧
      q.caught.lookup 5 = some q.right.Spells := by
    rw [caught]
    cases q.linear <;> cases q.constant <;> exact ⟨rfl, rfl⟩
  rw [quadratic, fromShape, hfind]
  simp only [hcatches.group_eq hrest.1, String.ofList_toList]
  rw [Coefficient.coefficientAt_of_catches hcatches rfl,
    Coefficient.termAt_of_catches hcatches hlinear,
    Coefficient.termAt_of_catches hcatches hconstant,
    Coefficient.coefficientAt_of_catches hcatches hrest.2, Option.map_map]
  rfl

section Kind

theorem squaresOnly_flatten : SquaresOnly q.tokens.flatten := by
  have hlinear : '^' ∉ q.linearTokens.flatten := by
    intro h
    rcases q.mem_linearTokens h with h | h <;> revert h <;> decide
  have hbehind := q.ending.notMem_tokens (c := '^') (by decide) (by decide) (by decide)
  rw [tokens, List.flatten_append, List.flatten_append, List.flatten_append]
  exact (squaresOnly_of_notMem q.square.notMem_caret).append (squaresOnly_square.append
    ((squaresOnly_of_notMem hlinear).append (squaresOnly_of_notMem hbehind)))

theorem followed_star_flatten : Followed '*' 'x' q.tokens.flatten := by
  have hlinear : Followed '*' 'x' q.linearTokens.flatten := by
    rw [linearTokens]
    cases q.linear with
    | none => exact followed_of_notMem List.not_mem_nil
    | some m =>
        rw [Option.elim_some, List.flatten_append]
        exact m.followed_star List.not_mem_nil
  have hbehind := q.ending.notMem_tokens (c := '*') (by decide) (by decide) (by decide)
  have hsquare : Followed '*' 'x' (q.square.tokens.flatten ++ squareTokens.flatten) :=
    q.square.followed_star (by decide)
  rw [tokens, List.flatten_append, List.flatten_append, List.flatten_append, ← List.append_assoc]
  exact hsquare.append (hlinear.append (followed_of_notMem hbehind))

/-- The characters of a quadratic text with these operators, in ASCII. -/
def textAlphabet (operators : List Char) : List Char :=
  ' ' :: 'x' :: '^' :: '*' :: (operators ++ (Coefficient.symbols ++ digitChars))

theorem mem_tokens {operators : List Char}
    (hoperators : ∀ c ∈ q.relation.operator.toList, c ∈ operators) :
    ∀ c ∈ q.tokens.flatten, c ∈ textAlphabet operators ∨ Text.isDigit c = true := by
  have hsymbols : ∀ c ∈ 'x' :: '*' :: Coefficient.symbols, c ∈ textAlphabet operators := by
    intro c hc
    simp only [List.mem_cons] at hc
    simp only [textAlphabet, List.mem_cons, List.mem_append]
    tauto
  have hsquare : ∀ c ∈ squareTokens.flatten, c = 'x' ∨ c = '^' ∨ Text.isDigit c = true :=
    List.all_iff_forall_prop.mp (by decide)
  have hcoefficient {c : Char} (h : Text.isDigit c = true ∨ c ∈ Coefficient.symbols) :
      c ∈ textAlphabet operators ∨ Text.isDigit c = true :=
    (h.imp_right fun hc => hsymbols c (by simp [hc])).symm
  intro c h
  simp only [tokens, List.flatten_append, List.mem_append] at h
  rcases h with h | h | h | h | h
  · exact ((q.square.mem_flatten h).imp_right fun hc => hsymbols c (by simp_all)).symm
  · rcases hsquare c h with rfl | rfl | h
    · exact Or.inl (by simp [textAlphabet])
    · exact Or.inl (by simp [textAlphabet])
    · exact Or.inr h
  · exact ((q.mem_linearTokens h).imp_right (hsymbols c)).symm
  · exact hcoefficient (q.ending.mem_constantTokens h)
  · rcases q.ending.mem_rightTokens h with h | h
    · exact Or.inl (by simp [textAlphabet, hoperators c h])
    · exact hcoefficient h

/-- The kinds before the quadratic equations ask for what no equation in standard form has. -/
theorem lacks_equation : ∀ kind ∈ Kind.all.takeWhile (· ≠ .standardQuadratic),
    (recognizers kind).all (lacks (textAlphabet ['='])) = true := by
  decide +kernel

theorem lacks_relation :
    (recognizers .exponentialInequality).tail.all (lacks (textAlphabet relationChars)) = true ∧
      (recognizers .exponentialQuadratic).all (lacks (textAlphabet relationChars)) = true := by
  decide +kernel

section Stated

variable {cs : List Char} (h : At q.tokens cs)
include h

theorem not_within {operators : List Char}
    (hoperators : ∀ c ∈ q.relation.operator.toList, c ∈ operators) {kind : Kind} {p : Pattern}
    (hp : p ∈ recognizers kind) (hlacks : p.lacks (textAlphabet operators) = true) :
    ¬ p.Within cs :=
  not_within_of_at (q.mem_tokens hoperators) h hp
    (List.cons_subset.mpr ⟨List.mem_cons_self, fun c hc => by simp [textAlphabet, hc]⟩) hlacks

/-- The square, what stands between it and the operator, and the operator. -/
theorem exists_eq_of_at : ∃ a g g' m rest,
    cs = a ++ ('x' :: (g ++ '^' :: (g' ++ ['2'])) ++
      (m ++ (q.relation.operator.toList ++ rest))) ∧
    AllBlank g ∧ AllBlank g' ∧ ∀ c ∈ m, c ∉ relationChars := by
  have hquiet : ∀ c ∈ relationChars, Text.isDigit c = false ∧
      c ∉ ' ' :: 'x' :: '*' :: Coefficient.symbols :=
    List.all_iff_forall_prop.mp (by decide)
  obtain ⟨a, _, rfl, -, htail⟩ := spelled_append.mp h
  obtain ⟨x, _, rfl, hx, hbehind⟩ := spelled_append.mp htail
  obtain ⟨g, g', g'', rfl, hg, hg', hg''⟩ := spelled_square hx
  rw [← List.append_assoc] at hbehind
  obtain ⟨m, _, rfl, hm, g₃, right, rfl, -, -⟩ := spelled_append.mp hbehind
  refine ⟨a, g, g', g'' ++ m, g₃ ++ right, by simp, allBlank_of_eq_space hg,
    allBlank_of_eq_space hg', fun c hc hrelation => ?_⟩
  obtain ⟨hdigit, hnot⟩ := hquiet c hrelation
  simp only [List.mem_cons, not_or] at hnot
  have hterms : ¬ (Text.isDigit c = true ∨ c ∈ 'x' :: '*' :: Coefficient.symbols) := by
    simp [hdigit, hnot]
  rcases List.mem_append.mp hc with hc | hc
  · exact hnot.1 (hg'' c hc)
  · rcases mem_of_spelled hm hc with hc | ⟨t, ht, hct⟩
    · exact hnot.1 (by simpa using hc)
    · rcases List.mem_append.mp ht with ht | ht
      · exact hterms (q.mem_linearTokens (List.mem_flatten.mpr ⟨t, ht, hct⟩))
      · exact hterms ((q.ending.mem_constantTokens (List.mem_flatten.mpr ⟨t, ht, hct⟩)).imp_right
          fun h => List.mem_cons_of_mem _ (List.mem_cons_of_mem _ h))

theorem within_squareThen_operator {excluded : List Char} {p : Pattern}
    (hexcluded : ∀ c ∈ excluded, c ∈ relationChars)
    (hp : ∀ before rest, p.Takes before q.relation.operator.toList rest) :
    (cat [squared 'x', manyExcept excluded, p]).Within cs := by
  obtain ⟨a, g, g', m, rest, rfl, hg, hg', hm⟩ := q.exists_eq_of_at h
  exact within_squareThen hg hg' (fun c hc hmem => hm c hc (hexcluded c hmem)) fun before =>
    hp before rest

theorem stated_standardQuadratic (heq : q.relation = .eq) : Stated .standardQuadratic cs := by
  refine ⟨_, List.mem_cons_self, q.within_squareThen_operator h
    (List.all_iff_forall_prop.mp (by decide)) fun before rest => ?_⟩
  rw [heq]
  exact takes_char.mpr rfl

theorem stated_quadraticInequality (hne : q.relation ≠ .eq) : Stated .quadraticInequality cs := by
  refine ⟨_, List.mem_cons_self, q.within_squareThen_operator h
    (List.all_iff_forall_prop.mp (by decide)) fun before rest => takes_inequalitySign.mpr ?_⟩
  revert hne
  cases q.relation <;> decide

theorem not_stated_exponentialInequality : ¬ Stated .exponentialInequality cs := by
  rintro ⟨p, hp, hwithin⟩
  rcases List.mem_cons.mp hp with rfl | htail
  · refine not_within_exponentX ?_ hwithin
    rw [Near.solid_eq q.tokens_tokens (Spelled.spaced h)]
    exact q.squaresOnly_flatten
  · exact q.not_within h (fun c hc => (q.relation.of_mem_operator c hc).1) hp
      (List.all_eq_true.mp lacks_relation.1 p htail) hwithin

end Stated

def kind : Kind :=
  if q.relation = .eq then .standardQuadratic else .quadraticInequality

theorem firstKind?_eq {s : String} (h : At q.tokens s.toList) : firstKind? s = some q.kind := by
  rw [firstKind?_eq_some_iff, kind]
  by_cases heq : q.relation = .eq
  · rw [if_pos heq]
    refine ⟨q.stated_standardQuadratic h heq, ?_⟩
    rintro kind hkind ⟨p, hp, hwithin⟩
    refine q.not_within h (fun c hc => ?_) hp
      (List.all_eq_true.mp (lacks_equation kind hkind) p hp) hwithin
    rw [(q.relation.of_mem_operator c hc).2 heq]
    exact List.mem_singleton_self _
  · rw [if_neg heq]
    refine ⟨q.stated_quadraticInequality h heq, fun kind hkind hstated => ?_⟩
    have hcases : kind = .exponentialInequality ∨ kind = .exponentialQuadratic := by
      revert hkind
      cases kind <;> decide
    rcases hcases with rfl | rfl
    · exact q.not_stated_exponentialInequality h hstated
    · obtain ⟨p, hp, hwithin⟩ := hstated
      exact q.not_within h (fun c hc => (q.relation.of_mem_operator c hc).1) hp
        (List.all_eq_true.mp lacks_relation.2 p hp) hwithin

end Kind

/-- Every quadratic relation in standard form is read as it is written. -/
theorem parseProblem_canonicalQuadratic {α : Type} [Scalar α] {text : String}
    (h : Spaced Text.isBlank q.tokens text.toList) (context : Option String) :
    ∃ problem : Problem α, parseProblem ⟨some text, none, none, none, context⟩ = .ok problem ∧
      problem.kind = (if q.relation = .eq then .standardQuadratic else .quadraticInequality) ∧
      problem.parameters.entries =
        [("a", .number (parseCoefficient q.square.coefficient.text)),
          ("b", .number (parseTerm (q.linear.map fun m => m.coefficient.text))),
          ("c", .number (parseTerm (q.constant.map Coefficient.text) -
            parseCoefficient q.right.text))] ++
        if q.relation = .eq then [] else [("operator", .text q.relation.operator)] := by
  have hat := at_normalize (q.mem_tokens fun c hc => (q.relation.of_mem_operator c hc).1)
    q.tokens_tokens (List.all_iff_forall_prop.mp (by decide))
    (apart_of_followed (by decide) q.followed_star_flatten) h
  have hne : normalize text ≠ "" := by
    refine ne_empty_of_spelled hat (t := ['^']) ?_ (List.cons_ne_nil _ _)
    simp [tokens, squareTokens]
  obtain ⟨problem, hparse, hkind, hparameters⟩ := parseProblem_of_firstKind? (α := α) context hne
    (q.firstKind?_eq hat) (by rw [kind]; split <;> decide)
  refine ⟨problem, hparse, hkind, ?_⟩
  have hextract : extract q.kind (normalize text) none = (quadratic (normalize text) : Params α) := by
    rw [kind]
    split <;> rfl
  rw [hparameters, hextract, q.quadratic_eq hat, entries_quadraticRecord, operatorEntries]

/-- The relation of `-1/2*x^2 + 3x - .5 >= 7`. -/
def minusHalfSquare : CanonicalQuadratic where
  square := ⟨⟨some .minus, some .half⟩, true⟩
  linear := some ⟨⟨some .plus, some (.ofDigit '3' rfl)⟩, false⟩
  constant := some ⟨some .minus, some .pointFive⟩
  relation := .ge
  right := ⟨none, some (.ofDigit '7' rfl)⟩
  isSome_sign_linear := by simp
  isSome_sign_constant := by simp
  isSome_size_constant := by simp
  isSome_size_right := rfl

theorem parseProblem_minusHalfSquare :
    Spaced Text.isBlank minusHalfSquare.tokens "-1/2*x^2 + 3x - .5 >= 7".toList ∧
    ∃ problem : Problem Float,
      parseProblem ⟨some "-1/2*x^2 + 3x - .5 >= 7", none, none, none, none⟩ = .ok problem ∧
      problem.kind = .quadraticInequality ∧ problem.parameters.entries =
        [("a", .number (parseCoefficient "-1/2")), ("b", .number (parseTerm (some "+3"))),
          ("c", .number (parseTerm (some "-.5") - parseCoefficient "7")),
          ("operator", .text ">=")] := by
  have hspelled : Spelled Text.isBlank minusHalfSquare.tokens "-1/2*x^2 + 3x - .5 >= 7".toList :=
    spelled_of_gaps [[], [], [], [], [], [' '], [' '], [], [' '], [' '], [' '], [' '], []] rfl
      (by decide) (by decide)
  exact ⟨hspelled.spaced, parseProblem_canonicalQuadratic minusHalfSquare hspelled.spaced none⟩

end CanonicalQuadratic

end EquationTutor
