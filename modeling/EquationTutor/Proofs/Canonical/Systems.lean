import EquationTutor.Proofs.Canonical.Coefficients
import EquationTutor.Proofs.Reading.LinearTexts

namespace EquationTutor

open PolynomialText Reading Pattern

namespace PolynomialText

/-- An equation in two unknowns in standard form, as it is written. -/
structure EquationInTwo where
  x : Coefficient
  y : Coefficient
  number : Coefficient
  isSome_sign_y : y.sign.isSome = true
  isSome_size_number : number.size.isSome = true

namespace EquationInTwo

variable (e : EquationInTwo)

def numberTokens : List (List Char) :=
  ['='] :: e.number.tokens

def yTokens : List (List Char) :=
  e.y.tokens ++ ['y'] :: e.numberTokens

def tokens : List (List Char) :=
  e.x.tokens ++ ['x'] :: e.yTokens

def caught : List (Nat × (List Char → Prop)) :=
  [(1, e.x.Spells)] ++ ([(2, e.y.Spells)] ++ [(3, e.number.Spells)])

def Starts (us : List (List Char)) (cs : List Char) : Prop :=
  e.x.Starts (['x'] :: (e.yTokens ++ us)) cs

def symbols : List Char :=
  'x' :: 'y' :: '=' :: Coefficient.symbols

section Tokens

variable {us : List (List Char)} (hus : Tokens us)
include hus

theorem tokens_number_append : Tokens (e.number.tokens ++ us) :=
  tokens_append.mpr ⟨e.number.tokens_tokens, hus⟩

theorem tokens_numberTokens_append : Tokens (e.numberTokens ++ us) :=
  tokens_cons (by decide) (e.tokens_number_append hus)

theorem tokens_behindX : Tokens (['y'] :: (e.numberTokens ++ us)) :=
  tokens_cons (by decide) (e.tokens_numberTokens_append hus)

theorem tokens_yTokens_append : Tokens (e.yTokens ++ us) := by
  rw [yTokens, List.append_assoc]
  exact tokens_append.mpr ⟨e.y.tokens_tokens, e.tokens_behindX hus⟩

theorem tokens_behind : Tokens (['x'] :: (e.yTokens ++ us)) :=
  tokens_cons (by decide) (e.tokens_yTokens_append hus)

theorem tokens_tokens_append : Tokens (e.tokens ++ us) := by
  rw [tokens, List.append_assoc]
  exact tokens_append.mpr ⟨e.x.tokens_tokens, e.tokens_behind hus⟩

variable (hnext : ∀ d ∈ us.flatten.head?, d ∈ Coefficient.enders)
include hnext

theorem reads_number : (cat [equals, group 3 signedNumber]).Reads (Near (e.numberTokens ++ us))
    (Near us) [(3, e.number.Spells)] := by
  have hequals : equals.Reads (Near (e.numberTokens ++ us)) (At (e.number.tokens ++ us)) [] :=
    reads_then (reads_blanks (e.tokens_numberTokens_append hus))
      (reads_then (reads_char (e.tokens_number_append hus) '=')
        (reads_blanks (e.tokens_number_append hus)))
  refine reads_then hequals fun before cs g hcs => ?_
  exact e.number.reads_signedNumber hus hnext e.isSome_size_number 3 before cs g (Or.inl hcs)

theorem reads_y : (cat [group 2 signedCoefficient, times, char 'y', equals,
    group 3 signedNumber]).Reads (At (e.yTokens ++ us)) (Near us)
    ([(2, e.y.Spells)] ++ [(3, e.number.Spells)]) := by
  have hy := e.tokens_behindX hus
  have hcoefficient : (group 2 signedCoefficient).Reads (At (e.yTokens ++ us))
      (Near (starTokens false ++ ['y'] :: (e.numberTokens ++ us))) [(2, e.y.Spells)] := by
    rw [yTokens, List.append_assoc]
    exact e.y.reads_signedCoefficient hy (mem_enders_of_head? false (by decide) _)
      e.isSome_sign_y 2
  exact reads_seq hcoefficient (reads_then (reads_times false hy fun c hc => by
      obtain rfl : 'y' = c := by simpa using hc
      decide)
    (reads_then (reads_char (e.tokens_numberTokens_append hus) 'y') (e.reads_number hus hnext)))

theorem reads : Shape.linearTwoVariables.Reads (e.Starts us) (Near us) e.caught := by
  have hx := e.tokens_behind hus
  have hy := e.tokens_yTokens_append hus
  exact reads_seq (e.x.reads_coefficient hx (mem_enders_of_head? false (by decide) _) 1)
    (reads_then (reads_times false hx fun c hc => by
        obtain rfl : 'x' = c := by simpa using hc
        decide)
      (reads_then (reads_char hy 'x') (reads_then (reads_blanks hy) (e.reads_y hus hnext))))

end Tokens

section Search

variable {us : List (List Char)} {cs : List Char}

theorem starts_of_at (h : At (e.tokens ++ us) cs) : e.Starts us cs := by
  rw [tokens, List.append_assoc] at h
  exact Or.inl h

theorem near_of_starts (h : e.Starts us cs) : Near (e.tokens ++ us) cs := by
  rw [tokens, List.append_assoc]
  rcases h with h | ⟨-, h⟩
  · exact h.spaced
  · exact h

theorem exists_best (hus : Tokens us) (hnext : ∀ d ∈ us.flatten.head?, d ∈ Coefficient.enders)
    (h : e.Starts us cs) (before : List Char) : ∃ taken rest found, cs = taken ++ rest ∧
      taken ≠ [] ∧ Shape.linearTwoVariables.Best before taken rest [] found ∧
      Catches found e.caught ∧ Near us rest := by
  obtain ⟨taken, rest, found, rfl, hbest, hfound, hrest⟩ := e.reads hus hnext before cs [] h
  refine ⟨taken, rest, found, rfl, ?_, hbest, hfound, hrest⟩
  rintro rfl
  have hsolid : solid [] = e.tokens.flatten :=
    solid_eq_of_near (e.tokens_tokens_append hus) (e.near_of_starts h) hrest
  have hx : 'x' ∈ e.tokens.flatten := by simp [tokens]
  rw [← hsolid] at hx
  cases hx

theorem exists_starts {separator : Char} (h : Near ([separator] :: e.tokens) cs) :
    ∃ gap front text, cs = gap ++ separator :: (front ++ text) ∧ (∀ c ∈ gap, c = ' ') ∧
      (∀ c ∈ front, c = ' ') ∧ e.Starts [] text ∧
      (front ≠ [] → ∃ c r, IsSign c ∧ text = c :: r) := by
  obtain ⟨gap, _, rfl, hgap, front, text, rfl, hfront, htext⟩ := h
  have hgap : ∀ c ∈ gap, c = ' ' := by simpa using hgap
  rw [← List.append_nil e.tokens] at htext
  cases hs : e.x.sign with
  | none =>
      rw [tokens, List.append_assoc] at htext
      exact ⟨gap, [], front ++ text, by simp, hgap, by simp,
        Or.inr ⟨hs, front, text, rfl, hfront, htext⟩, fun hne => absurd rfl hne⟩
  | some s =>
      refine ⟨gap, front, text, by simp, hgap, by simpa using hfront, e.starts_of_at htext,
        fun _ => ?_⟩
      have htokens : e.tokens ++ [] = [s.char] :: (e.x.body ++ ['x'] :: e.yTokens) := by
        simp [tokens, Coefficient.tokens, Coefficient.mark, hs]
      rw [htokens] at htext
      obtain ⟨g, rest, rfl, -, -⟩ := htext
      exact ⟨s.char, g ++ rest, s.char_mem, rfl⟩

end Search

end EquationInTwo

/-- What stands between two equations. -/
def separators : List Char :=
  [',', ';']

section Refuses

variable {b r : List Char} {c : Char} (hb : ∀ d ∈ b, d = ' ')
include hb

theorem refuses_equation_of_separator (hc : c ∈ separators) (before : List Char) :
    Shape.linearTwoVariables.Refuses before (b ++ c :: r) := by
  have havoids : ∀ c ∈ 'x' :: separators, coefficient.avoids c = true ∧ times.avoids c = true :=
    List.all_iff_forall_prop.mp (by decide)
  have hspace : ∀ c ∈ 'x' :: separators, c ≠ ' ' := List.all_iff_forall_prop.mp (by decide)
  rintro taken left hsplit ⟨s, _, rfl, hs, t, _, rfl, ht, _, u, rfl, hx, -⟩
  obtain rfl := takes_char.mp hx
  have htext : b ++ c :: r = (s ++ t) ++ 'x' :: (u ++ left) := by
    rw [hsplit]
    simp
  obtain ⟨-, htail⟩ := append_inj_of_first (P := (· ∈ 'x' :: separators)) htext
    (fun d hd hmem => hspace d hmem (hb d hd)) (fun d hd hmem => by
      rcases List.mem_append.mp hd with hd | hd
      · exact notMem_of_takes (p := coefficient) (havoids d hmem).1 hs hd
      · exact notMem_of_takes (havoids d hmem).2 ht hd)
    (by simp [hc]) (by simp)
  obtain ⟨rfl, -⟩ := List.cons.inj htail
  exact absurd hc (by decide)

theorem refuses_equation_of_sign (hc : IsSign c) (hne : b ≠ []) (before : List Char) :
    Shape.linearTwoVariables.Refuses before (b ++ c :: r) := by
  rintro taken left hsplit ⟨s, _, rfl, hs, t, _, rfl, ht, _, u, rfl, hx, -⟩
  obtain rfl := takes_char.mp hx
  obtain ⟨m, q, hst, hm, hq⟩ := signThenQuiet_of_takes hs ht
  have htext : b ++ c :: r = m ++ (q ++ 'x' :: (u ++ left)) := by
    rw [hsplit, ← List.append_assoc m, ← hst]
    simp
  -- there is no sign in front, since a space comes first
  have hmnil : m = [] := by
    rcases hm with hm | ⟨d, rfl, hd⟩
    · exact hm
    · obtain ⟨d', b, rfl⟩ := List.exists_cons_of_ne_nil hne
      obtain ⟨rfl, -⟩ := List.cons.inj htext
      rw [hb d' List.mem_cons_self] at hd
      exact absurd hd (by decide)
  rw [hmnil, List.nil_append] at htext
  obtain ⟨-, htail⟩ := append_inj_of_first (P := fun d => ¬ Quiet d) htext
    (fun d hd => not_not_intro (by rw [hb d hd]; decide)) (fun d hd => not_not_intro (hq d hd))
    (by simpa using hc.not_quiet) (by simp [Quiet, noisyChars])
  obtain ⟨rfl, -⟩ := List.cons.inj htail
  exact absurd hc (by decide)

end Refuses

theorem refuses_equation_between {gap front text a b : List Char} {separator : Char}
    (hseparator : separator ∈ separators) (hgap : ∀ c ∈ gap, c = ' ')
    (hfront : ∀ c ∈ front, c = ' ') (hsign : front ≠ [] → ∃ c r, IsSign c ∧ text = c :: r)
    (hab : gap ++ separator :: front = a ++ b) (hb : b ≠ []) (before : List Char) :
    Shape.linearTwoVariables.Refuses before (b ++ text) := by
  rcases List.append_eq_append_iff.mp hab with ⟨k, rfl, hk⟩ | ⟨k, rfl, rfl⟩
  · cases k with
    | nil =>
        obtain rfl : separator :: front = b := hk
        exact refuses_equation_of_separator (b := []) (by simp) hseparator before
    | cons c k =>
        obtain ⟨-, rfl⟩ := List.cons.inj hk
        obtain ⟨c, r, hc, rfl⟩ := hsign (List.append_ne_nil_of_right_ne_nil k hb)
        exact refuses_equation_of_sign (fun d hd => hfront d (List.mem_append_right k hd)) hc hb
          before
  · rw [List.append_assoc, List.cons_append]
    exact refuses_equation_of_separator (fun d hd => hgap d (List.mem_append_right a hd))
      hseparator before

def systemRecord {α : Type} (a₁ b₁ c₁ a₂ b₂ c₂ : α) : Params α :=
  ⟨[("a1", .number a₁), ("a2", .number a₂), ("b1", .number b₁), ("b2", .number b₂),
    ("c1", .number c₁), ("c2", .number c₂)]⟩

def systemAlphabet : List Char :=
  ' ' :: ',' :: ';' :: (EquationInTwo.symbols ++ digitChars)

theorem lacks_systemAlphabet : ∀ kind ∈ Kind.all.takeWhile (· ≠ .linearSystem),
    (recognizers kind).all (lacks systemAlphabet) = true := by
  decide +kernel

section System

variable {e₁ e₂ : EquationInTwo} {separator : Char} (hseparator : separator ∈ separators)
include hseparator

theorem tokens_behindSeparator : Tokens ([separator] :: e₂.tokens) := by
  have hblank : ∀ c ∈ separators, Text.isBlank c = false := List.all_iff_forall_prop.mp (by decide)
  have htokens := e₂.tokens_tokens_append tokens_nil
  rw [List.append_nil] at htokens
  exact tokens_cons (hblank separator hseparator) htokens

theorem tokens_system : Tokens (e₁.tokens ++ [separator] :: e₂.tokens) :=
  e₁.tokens_tokens_append (tokens_behindSeparator hseparator)

variable {s : String} (h : At (e₁.tokens ++ [separator] :: e₂.tokens) s.toList)
include h

/-- The first two matches are the two equations. -/
theorem exists_findAll_system : ∃ m₁ m₂ ms,
    Shape.linearTwoVariables.findAll s = m₁ :: m₂ :: ms ∧ Catches m₁.groups e₁.caught ∧
      Catches m₂.groups e₂.caught := by
  have hends : ∀ c ∈ separators, c ∈ Coefficient.enders := List.all_iff_forall_prop.mp (by decide)
  obtain ⟨taken₁, rest₁, g₁, htext, hne₁, hbest₁, hg₁, hnear⟩ :=
    e₁.exists_best (tokens_behindSeparator hseparator) (fun c hc => by
      obtain rfl : separator = c := by simpa using hc
      exact hends separator hseparator) (e₁.starts_of_at h) []
  obtain ⟨gap, front, text, rfl, hgap, hfront, hstarts, hsign⟩ := e₂.exists_starts hnear
  obtain ⟨taken₂, rest₂, g₂, rfl, hne₂, hbest₂, hg₂, -⟩ := e₂.exists_best tokens_nil
    (by simp) hstarts (taken₁ ++ (gap ++ separator :: front))
  -- the first match begins the text, the second one follows the separator
  have hall₁ := @allFrom_eq_cons _ [] _ _ _ [] hbest₁ hne₁
    fun a b hab hb => absurd (List.append_eq_nil_iff.mp hab.symm).2 hb
  have hall₂ := allFrom_eq_cons hbest₂ hne₂ fun a b hab hb =>
    refuses_equation_between hseparator hgap hfront hsign hab hb _
  have hrest : gap ++ separator :: (front ++ (taken₂ ++ rest₂)) =
      (gap ++ separator :: front) ++ (taken₂ ++ rest₂) := by
    simp
  rw [hrest, List.nil_append, List.nil_append] at hall₁
  have hfind : Shape.linearTwoVariables.findAll s = _ :=
    (congrArg (fun t => Shape.linearTwoVariables.allFrom (Cursor.after [] t))
      (htext.trans (congrArg _ hrest))).trans (hall₁.trans (congrArg (_ :: ·) hall₂))
  exact ⟨_, _, _, hfind, hg₁, hg₂⟩

theorem system_eq {α : Type} [Scalar α] : (system s : Params α) =
    systemRecord (parseCoefficient e₁.x.text) (parseCoefficient e₁.y.text)
      (parseCoefficient e₁.number.text) (parseCoefficient e₂.x.text)
      (parseCoefficient e₂.y.text) (parseCoefficient e₂.number.text) := by
  obtain ⟨m₁, m₂, ms, hfind, h₁, h₂⟩ := exists_findAll_system hseparator h
  have htake : (m₁ :: m₂ :: ms).take 2 = [m₁, m₂] := rfl
  have hread {m : Match} {e : EquationInTwo} (hm : Catches m.groups e.caught) :
      coefficientAt m 1 = (parseCoefficient e.x.text : α) ∧
        coefficientAt m 2 = (parseCoefficient e.y.text : α) ∧
        coefficientAt m 3 = (parseCoefficient e.number.text : α) :=
    ⟨Coefficient.coefficientAt_of_catches hm rfl, Coefficient.coefficientAt_of_catches hm rfl,
      Coefficient.coefficientAt_of_catches hm rfl⟩
  obtain ⟨ha₁, hb₁, hc₁⟩ := hread h₁
  obtain ⟨ha₂, hb₂, hc₂⟩ := hread h₂
  rw [system, hfind, htake]
  simp only [List.zipIdx_cons, List.zipIdx_nil, List.foldl_cons, List.foldl_nil, ha₁, hb₁, hc₁,
    ha₂, hb₂, hc₂]
  rfl

end System

theorem ne_separator_of_near {ts : List (List Char)} {cs : List Char}
    (hts : ∀ t ∈ ts, ∀ c ∈ t, Text.isDigit c = true ∨ c ∈ EquationInTwo.symbols)
    (h : Near ts cs) : ∀ c ∈ cs, c ≠ ',' ∧ c ≠ ';' := by
  have hsymbols : ∀ c ∈ ' ' :: EquationInTwo.symbols, c ≠ ',' ∧ c ≠ ';' :=
    List.all_iff_forall_prop.mp (by decide)
  have hdigits : Text.isDigit ',' = false ∧ Text.isDigit ';' = false := by decide
  obtain ⟨g, rest, rfl, hg, hrest⟩ := h
  have hspace {c : Char} (hc : (c == ' ') = true) : c ≠ ',' ∧ c ≠ ';' :=
    hsymbols c (by simpa using Or.inl hc)
  intro c hc
  rcases List.mem_append.mp hc with hc | hc
  · exact hspace (hg c hc)
  · rcases mem_of_spelled hrest hc with hc | ⟨t, ht, hct⟩
    · exact hspace hc
    · rcases hts t ht c hct with hdigit | hsymbol
      · constructor <;> rintro rfl <;> simp [hdigits] at hdigit
      · exact hsymbols c (List.mem_cons_of_mem _ hsymbol)

namespace EquationInTwo

theorem mem_coefficient (k : Coefficient) {t : List Char} (ht : t ∈ k.tokens) :
    ∀ c ∈ t, Text.isDigit c = true ∨ c ∈ symbols := by
  have hsymbols : ∀ c ∈ Coefficient.symbols, c ∈ symbols := List.all_iff_forall_prop.mp (by decide)
  exact fun c hc => ((k.mem_tokens ht).2 c hc).imp_right (hsymbols c)

theorem mem_tokens (e : EquationInTwo) {t : List Char} (ht : t ∈ e.tokens) :
    ∀ c ∈ t, Text.isDigit c = true ∨ c ∈ symbols := by
  have hone {c : Char} (hc : c ∈ symbols) :
      ∀ d ∈ [c], Text.isDigit d = true ∨ d ∈ symbols := by
    simpa using Or.inr hc
  simp only [tokens, yTokens, numberTokens, List.mem_append, List.mem_cons] at ht
  rcases ht with ht | rfl | ht | rfl | rfl | ht
  · exact mem_coefficient e.x ht
  · exact hone (by decide)
  · exact mem_coefficient e.y ht
  · exact hone (by decide)
  · exact hone (by decide)
  · exact mem_coefficient e.number ht

end EquationInTwo

section System

variable {e₁ e₂ : EquationInTwo} {separator : Char} (hseparator : separator ∈ separators)
include hseparator

theorem twoEquations_of_at {cs : List Char}
    (h : At (e₁.tokens ++ [separator] :: e₂.tokens) cs) : TwoEquations cs := by
  simp only [EquationInTwo.tokens, EquationInTwo.yTokens, EquationInTwo.numberTokens,
    List.append_assoc, List.cons_append] at h
  obtain ⟨a, _, rfl, -, g₁, _, rfl, hg₁, hy⟩ := spelled_append.mp h
  obtain ⟨b, _, rfl, hb, g₂, _, rfl, hg₂, g₃, _, rfl, hg₃, hnumber⟩ := spelled_append.mp hy
  obtain ⟨c, _, rfl, hc, g₄, _, rfl, hg₄, hsecond⟩ := spelled_append.mp hnumber
  rw [← List.cons_append, ← List.append_assoc] at hsecond
  obtain ⟨d, _, rfl, hd, g₅, rest, rfl, -, -⟩ := spelled_append.mp hsecond
  refine ⟨a, g₁ ++ b, g₂, g₃ ++ c, separator, g₄ ++ d, g₅ ++ rest, by simp,
    ne_separator_of_near (fun t ht => EquationInTwo.mem_coefficient e₁.y ht) ⟨g₁, b, rfl, hg₁, hb⟩,
    allBlank_of_eq_space (by simpa using hg₂),
    ne_separator_of_near (fun t ht => EquationInTwo.mem_coefficient e₁.number ht)
      ⟨g₃, c, rfl, hg₃, hc⟩,
    by simpa [separators] using hseparator,
    ne_separator_of_near (fun t ht => ?_) ⟨g₄, d, rfl, hg₄, hd⟩⟩
  refine e₂.mem_tokens ?_
  simp only [EquationInTwo.tokens, EquationInTwo.yTokens, List.mem_append, List.mem_cons] at ht ⊢
  tauto

theorem mem_systemAlphabet : ∀ c ∈ (e₁.tokens ++ [separator] :: e₂.tokens).flatten,
    c ∈ systemAlphabet ∨ Text.isDigit c = true := by
  have hseparators : ∀ c ∈ separators, c ∈ systemAlphabet := List.all_iff_forall_prop.mp (by decide)
  have hsymbol (e : EquationInTwo) {t : List Char} (ht : t ∈ e.tokens) {c : Char} (hc : c ∈ t) :
      c ∈ systemAlphabet ∨ Text.isDigit c = true :=
    ((e.mem_tokens ht c hc).imp_right fun hc => by simp [systemAlphabet, hc]).symm
  intro c h
  obtain ⟨t, ht, hc⟩ := List.mem_flatten.mp h
  rcases List.mem_append.mp ht with ht | ht
  · exact hsymbol e₁ ht hc
  · rcases List.mem_cons.mp ht with rfl | ht
    · rw [List.mem_singleton.mp hc]
      exact Or.inl (hseparators separator hseparator)
    · exact hsymbol e₂ ht hc

theorem star_notMem_system : '*' ∉ (e₁.tokens ++ [separator] :: e₂.tokens).flatten := by
  intro hmem
  rcases mem_systemAlphabet hseparator '*' hmem with h | h <;> revert h <;> decide

theorem firstKind?_system {s : String} (h : At (e₁.tokens ++ [separator] :: e₂.tokens) s.toList) :
    firstKind? s = some .linearSystem := by
  rw [firstKind?_eq_some_iff]
  refine ⟨stated_linearSystem_iff.mpr (Or.inl (twoEquations_of_at hseparator h)), ?_⟩
  rintro kind hkind ⟨p, hp, hwithin⟩
  exact not_within_of_at (mem_systemAlphabet hseparator) h hp
    (List.cons_subset.mpr ⟨List.mem_cons_self, fun c hc => by simp [systemAlphabet, hc]⟩)
    (List.all_eq_true.mp (lacks_systemAlphabet kind hkind) p hp) hwithin

theorem parseProblem_of_at {α : Type} [Scalar α] {text : String}
    (h : At (e₁.tokens ++ [separator] :: e₂.tokens) (normalize text).toList)
    (context : Option String) :
    ∃ problem : Problem α, parseProblem ⟨some text, none, none, none, context⟩ = .ok problem ∧
      problem.kind = .linearSystem ∧ problem.parameters =
        systemRecord (parseCoefficient e₁.x.text) (parseCoefficient e₁.y.text)
          (parseCoefficient e₁.number.text) (parseCoefficient e₂.x.text)
          (parseCoefficient e₂.y.text) (parseCoefficient e₂.number.text) := by
  obtain ⟨problem, hparse, hkind, hparameters⟩ := parseProblem_of_firstKind? (α := α) context
    (ne_empty_of_spelled h (t := [separator]) (by simp) (by simp))
    (firstKind?_system hseparator h) (by decide)
  refine ⟨problem, hparse, hkind, ?_⟩
  rw [hparameters]
  exact system_eq hseparator h

/-- Every system in standard form is read as it is written, the first equation first. -/
theorem parseProblem_canonicalSystem {α : Type} [Scalar α] {text : String}
    (h : Spaced Text.isBlank (e₁.tokens ++ [separator] :: e₂.tokens) text.toList)
    (context : Option String) :
    ∃ problem : Problem α, parseProblem ⟨some text, none, none, none, context⟩ = .ok problem ∧
      problem.kind = .linearSystem ∧ problem.parameters.entries =
        [("a1", .number (parseCoefficient e₁.x.text)), ("a2", .number (parseCoefficient e₂.x.text)),
          ("b1", .number (parseCoefficient e₁.y.text)),
          ("b2", .number (parseCoefficient e₂.y.text)),
          ("c1", .number (parseCoefficient e₁.number.text)),
          ("c2", .number (parseCoefficient e₂.number.text))] := by
  have hat := at_normalize (mem_systemAlphabet hseparator) (tokens_system hseparator)
    (List.all_iff_forall_prop.mp (by decide))
    (fun hsub => star_notMem_system hseparator (hsub.subset List.mem_cons_self)) h
  obtain ⟨problem, hparse, hkind, hparameters⟩ := parseProblem_of_at (α := α) hseparator hat context
  exact ⟨problem, hparse, hkind, by rw [hparameters]; rfl⟩

end System

/-- The equation of `-1/2x + y = 5`. -/
def firstLine : EquationInTwo where
  x := ⟨some .minus, some .half⟩
  y := ⟨some .plus, none⟩
  number := ⟨none, some (.ofDigit '5' rfl)⟩
  isSome_sign_y := rfl
  isSome_size_number := rfl

/-- The equation of `x - .5y = -9`. -/
def secondLine : EquationInTwo where
  x := ⟨none, none⟩
  y := ⟨some .minus, some .pointFive⟩
  number := ⟨some .minus, some (.ofDigit '9' rfl)⟩
  isSome_sign_y := rfl
  isSome_size_number := rfl

theorem parseProblem_twoLines : ';' ∈ separators ∧
    Spaced Text.isBlank (firstLine.tokens ++ [';'] :: secondLine.tokens)
      "-1/2x + y = 5; x - .5y = -9".toList ∧
    ∃ problem : Problem Float,
      parseProblem ⟨some "-1/2x + y = 5; x - .5y = -9", none, none, none, none⟩ = .ok problem ∧
      problem.kind = .linearSystem ∧ problem.parameters.entries =
        [("a1", .number (parseCoefficient "-1/2")), ("a2", .number (parseCoefficient "")),
          ("b1", .number (parseCoefficient "+")), ("b2", .number (parseCoefficient "-.5")),
          ("c1", .number (parseCoefficient "5")), ("c2", .number (parseCoefficient "-9"))] := by
  have hseparator : ';' ∈ separators := by decide
  have hspelled : Spelled Text.isBlank (firstLine.tokens ++ [';'] :: secondLine.tokens)
      "-1/2x + y = 5; x - .5y = -9".toList :=
    spelled_of_gaps [[], [], [' '], [' '], [' '], [' '], [], [' '], [' '], [' '], [], [' '], [' '],
      [], []] rfl (by decide) (by decide)
  exact ⟨hseparator, hspelled.spaced,
    parseProblem_canonicalSystem hseparator hspelled.spaced none⟩

end PolynomialText

end EquationTutor
