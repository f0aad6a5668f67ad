import EquationTutor.Proofs.Polynomial.Occurrence
import EquationTutor.Proofs.Reading.PowerTexts

namespace EquationTutor

namespace Pattern

/-- Whether the pattern asks for a character that is not in the alphabet. -/
def lacks (alphabet : List Char) (p : Pattern) : Bool :=
  p.needs.any fun accepts => alphabet.all fun c => !accepts c

theorem exists_mem_of_inOrder {needs : List (Char → Bool)} {cs : List Char}
    (h : inOrder needs cs = true) {accepts : Char → Bool} (haccepts : accepts ∈ needs) :
    ∃ c ∈ cs, accepts c = true := by
  induction cs generalizing needs with
  | nil =>
      cases needs with
      | nil => cases haccepts
      | cons a needs => simp [inOrder] at h
  | cons x cs ih =>
      cases needs with
      | nil => cases haccepts
      | cons a needs =>
          simp only [inOrder] at h
          split at h
          · rename_i hx
            rcases List.mem_cons.mp haccepts with rfl | hmem
            · exact ⟨x, List.mem_cons_self, hx⟩
            · obtain ⟨c, hc, hac⟩ := ih h hmem
              exact ⟨c, List.mem_cons_of_mem x hc, hac⟩
          · obtain ⟨c, hc, hac⟩ := ih h haccepts
            exact ⟨c, List.mem_cons_of_mem x hc, hac⟩

theorem exists_mem_of_within {p : Pattern} {cs : List Char} (h : p.Within cs)
    {accepts : Char → Bool} (haccepts : accepts ∈ p.needs) : ∃ c ∈ cs, accepts c = true := by
  obtain ⟨before, taken, rest, rfl, ht⟩ := h
  obtain ⟨g, hg⟩ := exists_mem_ends_of_takes ht []
  obtain ⟨s, hs, hneeds⟩ := exists_inOrder_of_mem_ends hg
  obtain ⟨c, hc, hac⟩ := exists_mem_of_inOrder hneeds haccepts
  have hsub : taken ++ rest = s ++ rest := hs
  refine ⟨c, ?_, hac⟩
  rw [List.append_assoc, hsub]
  simp [hc]

theorem exists_mem_needs_of_lacks {alphabet : List Char} {p : Pattern}
    (h : p.lacks alphabet = true) : ∃ accepts ∈ p.needs, ∀ c ∈ alphabet, accepts c = false := by
  simpa [lacks] using h

theorem not_within_of_lacks {alphabet : List Char} {p : Pattern} (h : p.lacks alphabet = true)
    {cs : List Char} (hcs : ∀ c ∈ cs, c ∈ alphabet) : ¬ p.Within cs := by
  intro hwithin
  obtain ⟨accepts, haccepts, hnone⟩ := exists_mem_needs_of_lacks h
  obtain ⟨c, hc, hac⟩ := exists_mem_of_within hwithin haccepts
  rw [hnone c (hcs c hc)] at hac
  cases hac

end Pattern

open PolynomialText Reading Pattern

namespace PolynomialText

def alphabet : List Char :=
  ' ' :: (sideAlphabet ++ relationAlphabet)

/-- The kinds that the text of a polynomial relation can be of. -/
def polynomialKinds : List Kind :=
  [.quadraticInequality, .standardQuadratic, .linearInequality, .simpleLinear]

theorem lacks_of_kind : ∀ kind : Kind, kind ∉ polynomialKinds → kind ≠ .exponentialInequality →
    kind ≠ .simpleExponential → (recognizers kind).all (lacks alphabet) = true := by
  intro kind
  cases kind <;> decide +kernel

theorem lacks_tail_of_kind : ∀ kind ∈ polynomialKinds ++
    [.exponentialInequality, .simpleExponential],
    (recognizers kind).tail.all (lacks alphabet) = true := by
  decide +kernel

theorem spelled_linear {cs : List Char} (h : Spelled (· == ' ') Power.linear.tokens cs) :
    ∃ g, cs = 'x' :: g ∧ ∀ c ∈ g, c = ' ' := by
  obtain ⟨g, rfl, hg⟩ := spelled_singleton.mp h
  exact ⟨g, rfl, by simpa using hg⟩

theorem spelled_square {cs : List Char} (h : Spelled (· == ' ') Power.square.tokens cs) :
    ∃ g g' g'', cs = 'x' :: (g ++ '^' :: (g' ++ '2' :: g'')) ∧ (∀ c ∈ g, c = ' ') ∧
      (∀ c ∈ g', c = ' ') ∧ ∀ c ∈ g'', c = ' ' := by
  obtain ⟨g, _, rfl, hg, g', _, rfl, hg', g'', _, rfl, hg'', rfl⟩ := h
  exact ⟨g, g', g'', by simp, by simpa using hg, by simpa using hg', by simpa using hg''⟩

theorem within_squareThen {excluded : List Char} {p : Pattern} {before g g' m o rest : List Char}
    (hg : AllBlank g) (hg' : AllBlank g') (hm : ∀ c ∈ m, c ∉ excluded)
    (ho : ∀ before, p.Takes before o rest) :
    (cat [squared 'x', manyExcept excluded, p]).Within
      (before ++ ('x' :: (g ++ '^' :: (g' ++ ['2'])) ++ (m ++ (o ++ rest)))) :=
  ⟨before, 'x' :: (g ++ '^' :: (g' ++ ['2'])) ++ (m ++ o), rest, by simp, _, _, rfl,
    takes_squared.mpr ⟨g, g', rfl, hg, hg'⟩, m, o, rfl, takes_manyExcept.mpr hm, ho _⟩

theorem of_mem_getLast?_append {P : Char → Prop} {a b : List Char} (hb : b ≠ [])
    (h : ∀ c ∈ b, P c) : ∀ c ∈ (a ++ b).getLast?, P c := by
  intro c hc
  rw [List.getLast?_append_of_ne_nil a hb] at hc
  exact h c (List.mem_of_getLast? hc)

end PolynomialText

theorem PolynomialText.Side.exists_eq_of_square {s : Side} {cs : List Char}
    (hcs : Spelled (· == ' ') s.tokens cs) (h : ∃ t ∈ s.terms, t.power = .square) :
    ∃ a g g' b, cs = a ++ ('x' :: (g ++ '^' :: (g' ++ ['2'])) ++ b) ∧ AllBlank g ∧
      AllBlank g' := by
  obtain ⟨t, ht, hsquare⟩ := h
  obtain ⟨before, tail, hterms⟩ := List.append_of_mem ht
  rw [Side.tokens, hterms] at hcs
  obtain ⟨l⟩ := nonempty_termAt hcs
  have hpower := l.spelled_power
  rw [hsquare] at hpower
  obtain ⟨g, g', g'', hpow, hg, hg', -⟩ := spelled_square hpower
  refine ⟨l.front ++ (l.lead ++ l.gap), g, g', g'' ++ l.back, ?_, allBlank_of_eq_space hg,
    allBlank_of_eq_space hg'⟩
  refine l.text_eq.trans ?_
  rw [hpow]
  simp

namespace PolynomialRelation.Written

variable {p : PolynomialRelation} {text : List Char} (w : p.Written text)
include w

theorem mem_alphabet : ∀ c ∈ text, c ∈ alphabet := by
  have hside : ∀ c ∈ ' ' :: sideAlphabet, c ∈ alphabet :=
    List.all_iff_forall_prop.mp (by decide)
  intro c hc
  rw [w.text_eq] at hc
  simp only [List.mem_append] at hc
  rcases hc with hc | hc | hc
  · exact hside c (w.left_side c hc)
  · have hop : ∀ c ∈ p.relation.operator.toList, c ∈ relationAlphabet := by
      rcases p.operator_cases with ⟨-, h⟩ | ⟨-, o, rfl | rfl, h | h⟩ <;> rw [h] <;>
        simp [relationAlphabet]
    simp [alphabet, hop c hc]
  · exact hside c (w.behind_side c (List.mem_append.mpr hc))

theorem stated_iff_within {kind : Kind} {q : Pattern} {qs : List Pattern}
    (hkind : recognizers kind = q :: qs)
    (hmem : kind ∈ polynomialKinds ++ [.exponentialInequality, .simpleExponential]) :
    Stated kind text ↔ q.Within text := by
  have htail := lacks_tail_of_kind kind hmem
  rw [hkind, List.tail_cons, List.all_eq_true] at htail
  rw [Stated, hkind]
  constructor
  · rintro ⟨r, hr, hwithin⟩
    rcases List.mem_cons.mp hr with rfl | hr
    · exact hwithin
    · exact absurd hwithin (not_within_of_lacks (htail r hr) w.mem_alphabet)
  · intro h
    exact ⟨q, List.mem_cons_self, h⟩

theorem exists_square_of_mem (h : '^' ∈ w.left) : ∃ t ∈ p.left.terms, t.power = .square := by
  rcases mem_of_spelled w.spelled_left h with h | ⟨s, hs, hcaret⟩
  · cases h
  obtain ⟨t, ht, hts⟩ := List.mem_flatMap.mp hs
  refine ⟨t, ht, ?_⟩
  rcases List.mem_append.mp hts with hlead | hpower
  · rcases (t.mem_lead hlead).2 _ hcaret with h | h | h | h <;> cases h
  · cases hpow : t.power with
    | constant =>
        rw [hpow] at hpower
        cases hpower
    | linear =>
        rw [hpow] at hpower
        obtain rfl := List.mem_singleton.mp hpower
        revert hcaret
        decide
    | square => rfl

theorem caret_mem_left {a s m rest : List Char} {c : Char}
    (htext : text = a ++ (s ++ m) ++ c :: rest) (hs : (squared 'x').Takes a s (m ++ c :: rest))
    (hm : ∀ x ∈ m, x ∉ relationChars) (hc : c ∈ relationChars) :
    '^' ∈ w.left ∧ c :: rest = p.relation.operator.toList ++ (w.spaces ++ w.right) := by
  obtain ⟨g, g', rfl, hg, hg'⟩ := takes_squared.mp hs
  have hquiet : ∀ x ∈ 'x' :: (g ++ '^' :: (g' ++ ['2'])) ++ m, x ∉ relationChars := by
    intro x hx
    simp only [List.cons_append, List.append_assoc, List.mem_cons, List.mem_append,
      List.not_mem_nil, false_or] at hx
    rcases hx with rfl | hx | rfl | hx | rfl | hx
    · decide
    · exact (quiet_of_allBlank hg x hx).notMem_relationChars
    · decide
    · exact (quiet_of_allBlank hg' x hx).notMem_relationChars
    · decide
    · exact hm x hx
  obtain ⟨hleft, hop⟩ := w.eq_left htext hc (of_mem_getLast?_append (by simp) hquiet)
  refine ⟨?_, hop⟩
  rw [← hleft]
  simp

theorem within_quadraticInequality_iff :
    (cat [squared 'x', manyExcept ['=', '<', '>', '!'], inequalitySign]).Within text ↔
      p.relation ≠ .eq ∧ ∃ t ∈ p.left.terms, t.power = .square := by
  constructor
  · rintro ⟨a, _, rest, htext, s, _, rfl, hs, m, o, rfl, hm, ho⟩
    rw [takes_manyExcept] at hm
    have ho : ∃ c o', o = c :: o' ∧ (c = '<' ∨ c = '>' ∨ c = '!') := by
      rcases takes_inequalitySign.mp ho with rfl | rfl | rfl | rfl | rfl <;>
        exact ⟨_, _, rfl, by simp⟩
    obtain ⟨c, o, rfl, hc⟩ := ho
    have htext' : text = a ++ (s ++ m) ++ c :: (o ++ rest) := by simpa using htext
    have hs' : (squared 'x').Takes a s (m ++ c :: (o ++ rest)) := by simpa using hs
    obtain ⟨hcaret, hop⟩ := w.caret_mem_left htext' hs' hm
      (by rcases hc with rfl | rfl | rfl <;> decide)
    refine ⟨?_, w.exists_square_of_mem hcaret⟩
    intro heq
    rcases p.operator_cases with ⟨-, h⟩ | ⟨hne, -⟩
    · rw [h] at hop
      obtain ⟨rfl, -⟩ := List.cons.inj hop
      rcases hc with h | h | h <;> cases h
    · exact hne heq
  · rintro ⟨hne, hsquare⟩
    obtain ⟨a, g, g', b, hleft, hg, hg'⟩ := Side.exists_eq_of_square w.spelled_left hsquare
    rcases p.operator_cases with ⟨heq, -⟩ | ⟨-, c, hc, hop⟩
    · exact absurd heq hne
    have hop : ∃ o, p.relation.operator.toList = c :: o := by
      rcases hop with h | h
      · exact ⟨_, h⟩
      · exact ⟨_, h⟩
    obtain ⟨o, hop⟩ := hop
    have htext : text = a ++ ('x' :: (g ++ '^' :: (g' ++ ['2'])) ++
        (b ++ ([c] ++ (o ++ (w.spaces ++ w.right))))) := by
      refine w.text_eq.trans ?_
      rw [hleft, hop]
      simp
    rw [htext]
    refine within_squareThen hg hg' (fun x hx => ?_) fun _ => takes_inequalitySign.mpr ?_
    · exact notMem_relationChars_of_mem_side x (w.left_side x (by rw [hleft]; simp [hx]))
    · rcases hc with rfl | rfl <;> simp

theorem within_standardQuadratic_iff :
    (cat [squared 'x', manyExcept ['<', '>', '!'], char '=']).Within text ↔
      p.relation = .eq ∧ ∃ t ∈ p.left.terms, t.power = .square := by
  constructor
  · rintro ⟨a, _, rest, htext, s, _, rfl, hs, m, _, rfl, hm, he⟩
    obtain rfl := takes_char.mp he
    rw [takes_manyExcept] at hm
    -- the first of the equality signs
    obtain ⟨m', b, hsplit, hm'⟩ := List.eq_append_cons_of_mem
      (List.mem_append_right m (List.mem_singleton_self '='))
    have hmem : ∀ x ∈ m', x ∉ relationChars := by
      intro x hx
      have hne : x ≠ '=' := by
        rintro rfl
        exact hm' hx
      have hmx : x ∈ m ++ ['='] := by
        rw [hsplit]
        simp [hx]
      rcases List.mem_append.mp hmx with h | h
      · have := hm x h
        simp only [relationChars, List.mem_cons, List.not_mem_nil, or_false] at this ⊢
        tauto
      · exact absurd (List.mem_singleton.mp h) hne
    have hrest : m ++ (['='] ++ rest) = m' ++ '=' :: (b ++ rest) := by
      rw [← List.append_assoc, hsplit]
      simp
    have htext' : text = a ++ (s ++ m') ++ '=' :: (b ++ rest) := by
      rw [htext]
      simp only [List.append_assoc, hrest]
    have hs' : (squared 'x').Takes a s (m' ++ '=' :: (b ++ rest)) := by
      rw [← hrest]
      simpa using hs
    obtain ⟨hcaret, hop⟩ := w.caret_mem_left htext' hs' hmem (by decide)
    refine ⟨?_, w.exists_square_of_mem hcaret⟩
    rcases p.operator_cases with ⟨heq, -⟩ | ⟨-, o, ho, h | h⟩
    · exact heq
    · rw [h] at hop
      obtain ⟨rfl, -⟩ := List.cons.inj hop
      rcases ho with h | h <;> cases h
    · rw [h] at hop
      obtain ⟨rfl, -⟩ := List.cons.inj hop
      rcases ho with h | h <;> cases h
  · rintro ⟨heq, hsquare⟩
    obtain ⟨a, g, g', b, hleft, hg, hg'⟩ := Side.exists_eq_of_square w.spelled_left hsquare
    rcases p.operator_cases with ⟨-, hop⟩ | ⟨hne, -⟩
    · have htext : text = a ++ ('x' :: (g ++ '^' :: (g' ++ ['2'])) ++
          (b ++ (['='] ++ (w.spaces ++ w.right)))) := by
        refine w.text_eq.trans ?_
        rw [hleft, hop]
        simp
      rw [htext]
      refine within_squareThen hg hg' (fun x hx => ?_) fun _ => takes_char.mpr rfl
      have := notMem_relationChars_of_mem_side x (w.left_side x (by rw [hleft]; simp [hx]))
      simp only [relationChars, List.mem_cons, List.not_mem_nil, or_false] at this ⊢
      tauto
    · exact absurd heq hne

end PolynomialRelation.Written

namespace PolynomialText

/-- Every `c` is followed by a `d`. -/
def Followed (c d : Char) (cs : List Char) : Prop :=
  ∀ a b, cs = a ++ c :: b → b.head? = some d

theorem Followed.append {c d : Char} {x y : List Char} (hx : Followed c d x)
    (hy : Followed c d y) : Followed c d (x ++ y) := by
  intro a b h
  rcases List.append_eq_append_iff.mp h with ⟨k, rfl, hk⟩ | ⟨k, hxk, hk⟩
  · exact hy k b hk
  · cases k with
    | nil => exact hy [] b hk.symm
    | cons e k =>
        obtain ⟨rfl, hb⟩ := List.cons.inj hk
        rw [hb]
        change (k ++ y).head? = _
        rw [List.head?_append, hx a k hxk]
        rfl

theorem followed_of_notMem {c d : Char} {cs : List Char} (h : c ∉ cs) : Followed c d cs := by
  rintro a b rfl
  exact absurd (by simp) h

theorem followed_cons_cons {c d : Char} (hcd : c ≠ d) {cs : List Char} (h : c ∉ cs) :
    Followed c d (c :: d :: cs) := by
  intro a b heq
  cases a with
  | nil =>
      rw [← (List.cons.inj heq).2]
      rfl
  | cons e a =>
      have hmem : c ∈ d :: cs := by
        rw [(List.cons.inj heq).2]
        simp
      rcases List.mem_cons.mp hmem with h' | h'
      · exact absurd h' hcd
      · exact absurd h' h

theorem apart_of_followed {c d : Char} (hcd : c ≠ d) {cs : List Char} (h : Followed c d cs) :
    ¬ [c, c] <:+: cs := by
  rintro ⟨a, b, rfl⟩
  have hhead := h a (c :: b) (by simp)
  exact hcd (Option.some.inj hhead)

/-- Every caret is followed by the exponent 2. -/
def SquaresOnly (cs : List Char) : Prop :=
  ∀ a b, cs = a ++ '^' :: b → b.head? = some '2'

theorem SquaresOnly.append {x y : List Char} (hx : SquaresOnly x) (hy : SquaresOnly y) :
    SquaresOnly (x ++ y) :=
  Followed.append hx hy

theorem squaresOnly_of_notMem {cs : List Char} (h : '^' ∉ cs) : SquaresOnly cs :=
  followed_of_notMem h

theorem squaresOnly_square : SquaresOnly ['x', '^', '2'] := by
  have hx : SquaresOnly ['x'] := squaresOnly_of_notMem (by decide)
  exact hx.append (followed_cons_cons (by decide) List.not_mem_nil)

theorem squaresOnly_tokens (q : Power) : SquaresOnly q.tokens.flatten := by
  cases q with
  | constant => exact squaresOnly_of_notMem (by decide)
  | linear => exact squaresOnly_of_notMem (by decide)
  | square => exact squaresOnly_square

theorem squaresOnly_text (t : Term) : SquaresOnly t.text := by
  have hmark : '^' ∉ t.mark := by
    rw [Term.mark]
    cases t.sign with
    | none => decide
    | some s => cases s <;> decide
  exact (squaresOnly_of_notMem hmark).append
    ((squaresOnly_of_notMem fun h => (t.quiet_digits _ h).ne (by decide) rfl).append
      (squaresOnly_tokens t.power))

theorem squaresOnly_flatMap (ts : List Term) : SquaresOnly (ts.flatMap Term.text) := by
  induction ts with
  | nil => exact squaresOnly_of_notMem (by simp)
  | cons t ts ih => exact (squaresOnly_text t).append ih

theorem exists_of_takes_exponentX {before taken rest : List Char}
    (h : exponentX.Takes before taken rest) :
    ∃ g o b, taken = g ++ '^' :: (o ++ 'x' :: b) ∧ (solid o = [] ∨ solid o = ['(']) := by
  simp only [exponentX, exponentOpening, cat, takes_seq, takes_blanks, takes_char,
    takes_optional] at h
  obtain ⟨_, _, rfl, ⟨g, _, rfl, hg, _, _, rfl, rfl, g', o, rfl, hg', ho⟩, g'', _, rfl, hg'', _,
    b, rfl, rfl, -⟩ := h
  refine ⟨g, g' ++ (o ++ g''), b, by simp, ?_⟩
  rw [solid_append, solid_append, solid_of_allBlank hg', solid_of_allBlank hg'']
  rcases ho with rfl | rfl
  · exact Or.inr (by decide)
  · exact Or.inl (by decide)

theorem not_takes_exponentX {text a taken rest before left : List Char}
    (hsquares : SquaresOnly (solid text)) (h : text = a ++ (taken ++ rest)) :
    ¬ exponentX.Takes before taken left := by
  intro ht
  obtain ⟨g, o, b, rfl, ho⟩ := exists_of_takes_exponentX ht
  have hsolid : solid text =
      (solid a ++ solid g) ++ '^' :: (solid o ++ 'x' :: solid (b ++ rest)) := by
    rw [h]
    simp only [List.append_assoc, List.cons_append, solid_append,
      solid_cons (show Text.isBlank '^' = false by decide),
      solid_cons (show Text.isBlank 'x' = false by decide)]
  have hhead := hsquares _ _ hsolid
  rcases ho with ho | ho
  · rw [ho] at hhead
    cases hhead
  · rw [ho] at hhead
    cases hhead

theorem not_within_exponentX {p q : Pattern} {text : List Char}
    (hsquares : SquaresOnly (solid text)) : ¬ (cat [p, exponentX, q]).Within text := by
  rintro ⟨a, _, rest, htext, s, _, rfl, -, e, o, rfl, he, -⟩
  have htext : text = (a ++ s) ++ (e ++ (o ++ rest)) := by
    simpa using htext
  exact not_takes_exponentX hsquares htext he

end PolynomialText

namespace PolynomialRelation.Written

variable {p : PolynomialRelation} {text : List Char} (w : p.Written text)
include w

theorem solid_text : solid text = p.left.terms.flatMap Term.text ++
    (p.relation.operator.toList ++ p.right.terms.flatMap Term.text) := by
  have hop : ∀ c ∈ p.relation.operator.toList, Text.isBlank c = false :=
    fun c hc => (not_blank_of_mem_relationChars c (p.mem_relationChars c hc)).1
  calc solid text
      = solid (w.left ++ (p.relation.operator.toList ++ (w.spaces ++ w.right))) := by
        rw [← w.text_eq]
    _ = _ := by
        simp only [solid_append, solid_spelled_terms w.spelled_left,
          solid_spelled_terms w.spelled_right, solid_of_not_blank hop,
          solid_of_allBlank (allBlank_of_eq_space w.eq_space), List.nil_append]

theorem squaresOnly : SquaresOnly (solid text) := by
  have hop : '^' ∉ p.relation.operator.toList := by
    intro h
    have := p.mem_relationChars '^' h
    revert this
    decide
  rw [w.solid_text]
  exact (squaresOnly_flatMap _).append ((squaresOnly_of_notMem hop).append (squaresOnly_flatMap _))

theorem not_stated_exponential {kind : Kind}
    (hkind : kind = .exponentialInequality ∨ kind = .simpleExponential) : ¬ Stated kind text := by
  intro h
  rcases hkind with rfl | rfl
  · exact not_within_exponentX w.squaresOnly ((w.stated_iff_within rfl (by decide)).mp h)
  · exact not_within_exponentX w.squaresOnly ((w.stated_iff_within rfl (by decide)).mp h)

theorem not_stated_of_kind {kind : Kind} (hkind : kind ∉ polynomialKinds) :
    ¬ Stated kind text := by
  by_cases hexp : kind = .exponentialInequality ∨ kind = .simpleExponential
  · exact w.not_stated_exponential hexp
  · rw [not_or] at hexp
    rintro ⟨q, hq, hwithin⟩
    have hlacks := lacks_of_kind kind hkind hexp.1 hexp.2
    rw [List.all_eq_true] at hlacks
    exact not_within_of_lacks (hlacks q hq) w.mem_alphabet hwithin

end PolynomialRelation.Written

end EquationTutor
