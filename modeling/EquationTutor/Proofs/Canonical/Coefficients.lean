import EquationTutor.Proofs.Pattern.Reads
import EquationTutor.Proofs.Reading.Scripts
import EquationTutor.Numeric.Double
import EquationTutor.Reading.Extract

namespace EquationTutor

open PolynomialText Reading Pattern

namespace PolynomialText

/-- A number without sign, which may stand over a whole number. -/
structure Ratio where
  above : List Char
  below : Option (List Char)
  numeral_above : Numeral above
  digits_below : ∀ ds ∈ below, Digits ds

def Ratio.chars (r : Ratio) : List Char :=
  r.above ++ r.below.elim [] ('/' :: ·)

/-- A sign and a number, each of which may be left out. -/
structure Coefficient where
  sign : Option Sign
  size : Option Ratio

namespace Coefficient

def mark (c : Coefficient) : List (List Char) :=
  c.sign.toList.map fun s => [s.char]

def body (c : Coefficient) : List (List Char) :=
  c.size.toList.map Ratio.chars

def tokens (c : Coefficient) : List (List Char) :=
  c.mark ++ c.body

def text (c : Coefficient) : String :=
  String.ofList c.tokens.flatten

/-- The characters of coefficients that are no digits. -/
def symbols : List Char :=
  ['.', '/', '+', '-']

/-- What stands behind a coefficient. -/
def enders : List Char :=
  ['*', 'x', 'y', '=', '<', '>', '!', ',', ';']

end Coefficient

theorem digits_singleton {d : Char} (h : Text.isDigit d = true) : Digits [d] :=
  ⟨List.cons_ne_nil _ _, fun _ hc => List.mem_singleton.mp hc ▸ h⟩

theorem numeral_of_digits {ds : List Char} (h : Digits ds) : Numeral ds :=
  Or.inl ⟨ds, [], by simp, h, Or.inl rfl⟩

def Ratio.ofNumeral (cs : List Char) (h : Numeral cs) : Ratio :=
  ⟨cs, none, h, fun _ hds => absurd hds (Option.not_mem_none _)⟩

def Ratio.ofDigit (d : Char) (h : Text.isDigit d = true) : Ratio :=
  .ofNumeral [d] (numeral_of_digits (digits_singleton h))

def Ratio.half : Ratio :=
  ⟨['1'], some ['2'], numeral_of_digits (digits_singleton rfl), by simpa using digits_singleton rfl⟩

def Ratio.pointFive : Ratio :=
  .ofNumeral ['.', '5'] (Or.inr ⟨['5'], rfl, digits_singleton rfl⟩)

namespace Ratio

variable (r : Ratio)

theorem mem_chars {c : Char} (h : c ∈ r.chars) :
    Text.isDigit c = true ∨ c = '.' ∨ c = '/' := by
  rcases List.mem_append.mp h with h | h
  · exact (mem_of_numeral r.numeral_above c h).imp_right Or.inl
  · cases hbelow : r.below with
    | none =>
        rw [hbelow] at h
        cases h
    | some ds =>
        rw [hbelow] at h
        rcases List.mem_cons.mp h with rfl | h
        · exact Or.inr (Or.inr rfl)
        · exact Or.inl ((r.digits_below ds hbelow).2 c h)

theorem exists_chars_cons :
    ∃ d ds, r.chars = d :: ds ∧ (Text.isDigit d = true ∨ d = '.') := by
  obtain ⟨d, ds, hds⟩ := List.exists_cons_of_ne_nil (ne_nil_of_numeral r.numeral_above)
  refine ⟨d, _, by rw [chars, hds, List.cons_append], ?_⟩
  exact mem_of_numeral r.numeral_above d (by rw [hds]; exact List.mem_cons_self)

end Ratio

namespace Coefficient

theorem not_isSign_of_isDigit {c : Char} (h : Text.isDigit c = true ∨ c = '.') :
    ¬ IsSign c := by
  have hsigns : Text.isDigit '+' = false ∧ Text.isDigit '-' = false := by decide
  rintro (rfl | rfl)
  · rw [hsigns.1] at h
    exact absurd h (by decide)
  · rw [hsigns.2] at h
    exact absurd h (by decide)

theorem of_mem_enders : ∀ c ∈ ' ' :: enders, Text.isDigit c = false ∧ (c == '.') = false ∧
    (c == '/') = false ∧ ¬ IsSign c :=
  List.all_iff_forall_prop.mp (by decide)

variable (c : Coefficient)

theorem mem_tokens {t : List Char} (ht : t ∈ c.tokens) :
    t ≠ [] ∧ ∀ d ∈ t, Text.isDigit d = true ∨ d ∈ symbols := by
  simp only [tokens, mark, body, List.mem_append, List.mem_map, Option.mem_toList] at ht
  rcases ht with ⟨s, -, rfl⟩ | ⟨r, -, rfl⟩
  · refine ⟨List.cons_ne_nil _ _, fun d hd => Or.inr ?_⟩
    rw [List.mem_singleton.mp hd]
    cases s <;> decide
  · obtain ⟨e, ds, hds, -⟩ := r.exists_chars_cons
    refine ⟨by rw [hds]; exact List.cons_ne_nil _ _, fun d hd => ?_⟩
    rcases r.mem_chars hd with h | rfl | rfl
    · exact Or.inl h
    · exact Or.inr (by decide)
    · exact Or.inr (by decide)

theorem mem_flatten {d : Char} (hd : d ∈ c.tokens.flatten) :
    Text.isDigit d = true ∨ d ∈ symbols := by
  obtain ⟨t, ht, hdt⟩ := List.mem_flatten.mp hd
  exact (c.mem_tokens ht).2 d hdt

theorem notMem_flatten {d : Char} (hdigit : Text.isDigit d = false) (hd : d ∉ symbols) :
    d ∉ c.tokens.flatten := by
  intro hmem
  rcases c.mem_flatten hmem with h | h
  · rw [h] at hdigit
    cases hdigit
  · exact hd h

theorem tokens_tokens : Tokens c.tokens := by
  have hsymbols : ∀ d ∈ symbols, Text.isBlank d = false :=
    List.all_iff_forall_prop.mp (by decide)
  refine fun t ht => ⟨(c.mem_tokens ht).1, fun d hd => ?_⟩
  rcases (c.mem_tokens ht).2 d hd with h | h
  · exact Text.not_blank_of_isDigit h
  · exact hsymbols d h

end Coefficient

theorem Ratio.best (r : Ratio) {numberPart : Pattern} {rest : List Char}
    (hpart : ∀ before t rest g, number.Best before t rest g g → numberPart.Best before t rest g g)
    (hrest : ∀ c ∈ rest.head?, c ∈ ' ' :: Coefficient.enders) (before : List Char) (g : Groups) :
    (cat [numberPart, optional overDigits]).Best before r.chars rest g g := by
  have hends := fun c hc => Coefficient.of_mem_enders c (hrest c hc)
  cases hbelow : r.below with
  | none =>
      have hchars : r.chars = r.above ++ [] := by simp [chars, hbelow]
      rw [hchars]
      exact best_seq (hpart _ _ _ _ (best_numeral r.numeral_above (fun c hc => (hends c hc).1)
          fun c hc => (hends c hc).2.1))
        (best_optional_of_refuses (refuses_seq (refuses_one fun c hc => (hends c hc).2.2.1)))
  | some ds =>
      have hchars : r.chars = r.above ++ ('/' :: ds) := by simp [chars, hbelow]
      have hbar : ∀ c ∈ ('/' :: ds ++ rest).head?, Text.isDigit c = false ∧ (c == '.') = false := by
        intro c hc
        obtain rfl : '/' = c := by simpa using hc
        decide
      have hover : overDigits.Best (before ++ r.above) ('/' :: ds) rest g g :=
        best_seq (s := ['/']) best_char
          (best_digits (r.digits_below ds hbelow) fun c hc => (hends c hc).1)
      rw [hchars]
      exact best_seq (hpart _ _ _ _ (best_numeral r.numeral_above (fun c hc => (hbar c hc).1)
        fun c hc => (hbar c hc).2)) (best_optional hover)

namespace Coefficient

/-- The text of the coefficient, with or without spaces. -/
def Spells (c : Coefficient) (cs : List Char) : Prop :=
  solid cs = c.tokens.flatten

/-- A match of the coefficient can begin here: spaces go with it only if it has no sign. -/
def Starts (c : Coefficient) (us : List (List Char)) (cs : List Char) : Prop :=
  At (c.tokens ++ us) cs ∨ c.sign = none ∧ Near (c.tokens ++ us) cs

section Reads

variable (c : Coefficient) {us : List (List Char)} (hus : Tokens us)
  (hnext : ∀ d ∈ us.flatten.head?, d ∈ enders)

include hus in
theorem tokens_body_append : Tokens (c.body ++ us) :=
  tokens_append.mpr ⟨(tokens_append.mp c.tokens_tokens).2, hus⟩

include hus in
theorem spells_of_starts {taken rest : List Char} (h : c.Starts us (taken ++ rest))
    (hrest : Near us rest) : c.Spells taken := by
  have hnear : Near (c.tokens ++ us) (taken ++ rest) := by
    rcases h with h | ⟨-, h⟩
    · exact h.spaced
    · exact h
  exact solid_eq_of_near (tokens_append.mpr ⟨c.tokens_tokens, hus⟩) hnear hrest

include hnext in
theorem head?_body_append : ∀ d ∈ (c.body ++ us).flatten.head?, ¬ IsSign d := by
  intro d hd
  cases hsize : c.size with
  | none =>
      rw [body, hsize] at hd
      exact (of_mem_enders d (List.mem_cons_of_mem _ (hnext d hd))).2.2.2
  | some r =>
      obtain ⟨e, es, hes, he⟩ := r.exists_chars_cons
      obtain rfl : e = d := by simpa [body, hsize, hes] using hd
      exact not_isSign_of_isDigit he

include hus in
theorem reads_sign (hsign : c.sign.isSome = true) :
    Reading.sign.Reads (At (c.tokens ++ us)) (Near (c.body ++ us)) [] := by
  obtain ⟨s, hs⟩ := Option.isSome_iff_exists.mp hsign
  have htokens : c.tokens ++ us = [s.char] :: (c.body ++ us) := by simp [tokens, mark, hs]
  rw [htokens]
  refine reads_token (c.tokens_body_append hus) fun _ _ _ _ => best_one ?_
  cases s <;> decide

include hus hnext

theorem reads_optionalSign :
    (optional Reading.sign).Reads (c.Starts us) (Near (c.body ++ us)) [] := by
  cases hs : c.sign with
  | some s =>
      intro before cs g hcs
      have hat : At (c.tokens ++ us) cs := hcs.resolve_right fun h => by simp [hs] at h
      exact reads_optional (c.reads_sign hus (by simp [hs])) before cs g hat
  | none =>
      have hnear : ∀ cs, c.Starts us cs → Near (c.body ++ us) cs := by
        have htokens : c.tokens = c.body := by simp [tokens, mark, hs]
        rintro cs (h | ⟨-, h⟩)
        · rw [htokens] at h
          exact h.spaced
        · rwa [htokens] at h
      refine reads_optional_of_refuses (fun before cs hcs => refuses_sign fun d hd => ?_) hnear
      rcases (hnear cs hcs).head? (c.tokens_body_append hus) d hd with rfl | hd
      · decide
      · exact c.head?_body_append hnext d hd

theorem reads_size (hsize : c.size.isSome = true) {numberPart : Pattern}
    (hpart : ∀ before t rest g, number.Best before t rest g g →
      numberPart.Best before t rest g g) :
    (cat [numberPart, optional overDigits]).Reads (At (c.body ++ us)) (Near us) [] := by
  obtain ⟨r, hr⟩ := Option.isSome_iff_exists.mp hsize
  have htokens : c.body ++ us = r.chars :: us := by simp [body, hr]
  rw [htokens]
  refine reads_token hus fun before rest g hrest => r.best hpart (fun d hd => ?_) before g
  rcases hrest d hd with rfl | hd
  · exact List.mem_cons_self
  · exact List.mem_cons_of_mem _ (hnext d hd)

theorem reads_optionalSize :
    (cat [optional number, optional overDigits]).Reads (At (c.body ++ us)) (Near us) [] := by
  cases hsize : c.size with
  | some r => exact c.reads_size hus hnext (by simp [hsize]) fun _ _ _ _ => best_optional
  | none =>
      have htokens : c.body ++ us = us := by simp [body, hsize]
      have hends : ∀ cs, At us cs → ∀ d ∈ cs.head?, Text.isDigit d = false ∧
          (d == '.') = false ∧ (d == '/') = false ∧ ¬ IsSign d := by
        intro cs hcs d hd
        rw [hcs.head?_eq hus] at hd
        exact of_mem_enders d (List.mem_cons_of_mem _ (hnext d hd))
      rw [htokens]
      refine reads_then (Q := At us) (reads_optional_of_refuses (fun before cs hcs => ?_)
        fun _ h => h) (reads_optional_of_refuses (fun before cs hcs => ?_) fun _ h => h.spaced)
      · exact refuses_number (fun d hd => (hends cs hcs d hd).1) fun d hd => (hends cs hcs d hd).2.1
      · exact refuses_seq (refuses_one fun d hd => (hends cs hcs d hd).2.2.1)

omit hnext in
theorem reads_lead {signPart sizePart : Pattern} {P : List Char → Prop}
    (hsign : signPart.Reads P (Near (c.body ++ us)) [])
    (hsize : sizePart.Reads (At (c.body ++ us)) (Near us) []) :
    (cat [signPart, blanks, sizePart]).Reads P (Near us) [] :=
  reads_then hsign (reads_then (reads_blanks (c.tokens_body_append hus)) hsize)

theorem reads_coefficient (i : Nat) :
    (group i coefficient).Reads (c.Starts us) (Near us) [(i, c.Spells)] :=
  reads_group (c.reads_lead hus (c.reads_optionalSign hus hnext) (c.reads_optionalSize hus hnext))
    fun _ _ => c.spells_of_starts hus

theorem reads_signedNumber (hsize : c.size.isSome = true) (i : Nat) :
    (group i signedNumber).Reads (c.Starts us) (Near us) [(i, c.Spells)] :=
  reads_group (c.reads_lead hus (c.reads_optionalSign hus hnext)
    (c.reads_size hus hnext hsize fun _ _ _ _ h => h)) fun _ _ => c.spells_of_starts hus

theorem reads_signedCoefficient (hsign : c.sign.isSome = true) (i : Nat) :
    (group i signedCoefficient).Reads (At (c.tokens ++ us)) (Near us) [(i, c.Spells)] :=
  reads_group (c.reads_lead hus (c.reads_sign hus hsign) (c.reads_optionalSize hus hnext))
    fun _ _ h => c.spells_of_starts hus (Or.inl h)

theorem reads_constantTerm (hsign : c.sign.isSome = true) (hsize : c.size.isSome = true)
    (i : Nat) : (group i constantTerm).Reads (At (c.tokens ++ us)) (Near us) [(i, c.Spells)] :=
  reads_group (c.reads_lead hus (c.reads_sign hus hsign)
    (c.reads_size hus hnext hsize fun _ _ _ _ h => h)) fun _ _ h => c.spells_of_starts hus (Or.inl h)

end Reads

end Coefficient

theorem tokens_cons {c : Char} (hc : Text.isBlank c = false) {us : List (List Char)}
    (hus : Tokens us) : Tokens ([c] :: us) :=
  List.forall_mem_cons.mpr ⟨⟨List.cons_ne_nil _ _, by simpa using hc⟩, hus⟩

def starTokens (starred : Bool) : List (List Char) :=
  if starred then [['*']] else []

theorem starTokens_cases (starred : Bool) :
    starTokens starred = [] ∨ starTokens starred = [['*']] := by
  cases starred
  · exact Or.inl rfl
  · exact Or.inr rfl

theorem mem_starTokens {starred : Bool} {t : List Char} (h : t ∈ starTokens starred) :
    t = ['*'] := by
  rcases starTokens_cases starred with hstar | hstar <;> rw [hstar] at h
  · cases h
  · exact List.mem_singleton.mp h

theorem tokens_starTokens (starred : Bool) : Tokens (starTokens starred) := by
  intro t ht
  rw [mem_starTokens ht]
  exact ⟨List.cons_ne_nil _ _, fun c hc => by rw [List.mem_singleton.mp hc]; decide⟩

theorem reads_times (starred : Bool) {us : List (List Char)} (hus : Tokens us)
    (hnext : ∀ c ∈ us.flatten.head?, c ≠ '*') :
    times.Reads (Near (starTokens starred ++ us)) (At us) [] := by
  have hstar : (optional (char '*')).Reads (At (starTokens starred ++ us)) (Near us) [] := by
    rcases starTokens_cases starred with hstar | hstar <;> rw [hstar]
    · refine reads_optional_of_refuses (fun before cs hcs => refuses_one fun c hc => ?_)
        fun cs hcs => hcs.spaced
      rw [At.head?_eq hus hcs] at hc
      exact beq_eq_false_iff_ne.mpr (hnext c hc)
    · exact reads_optional (reads_char hus '*')
  exact reads_then (reads_blanks (tokens_append.mpr ⟨tokens_starTokens starred, hus⟩))
    (reads_then hstar (reads_blanks hus))

theorem mem_enders_of_head? (starred : Bool) {v : Char} (hv : v ∈ Coefficient.enders)
    (us : List (List Char)) :
    ∀ c ∈ (starTokens starred ++ [v] :: us).flatten.head?, c ∈ Coefficient.enders := by
  intro c hc
  rcases starTokens_cases starred with hstar | hstar <;> rw [hstar] at hc
  · obtain rfl : v = c := by simpa using hc
    exact hv
  · obtain rfl : '*' = c := by simpa using hc
    decide

section Text

variable {ts : List (List Char)} {alphabet : List Char}
  (hmem : ∀ c ∈ ts.flatten, c ∈ alphabet ∨ Text.isDigit c = true)
include hmem

/-- Normalization leaves tokens of such an alphabet alone and single spaces between them. -/
theorem at_normalize (hts : Tokens ts) (hglyphs : ∀ c ∈ glyphs, c ∉ alphabet)
    (hstars : ¬ ['*', '*'] <:+: ts.flatten) {text : String}
    (h : Spaced Text.isBlank ts text.toList) : At ts (normalize text).toList := by
  have hdigits : ∀ c ∈ glyphs, Text.isDigit c = false := List.all_iff_forall_prop.mp (by decide)
  refine spelled_normalize_of_apart (fun t ht => ⟨(hts t ht).1, fun c hc =>
    ⟨(hts t ht).2 c hc, plainGlyph_of_notMem fun hglyph => ?_⟩⟩) hstars h
  rcases hmem c (List.mem_flatten.mpr ⟨t, ht, hc⟩) with h | h
  · exact hglyphs c hglyph h
  · rw [hdigits c hglyph] at h
    cases h

theorem not_within_of_at {cs : List Char} (h : At ts cs) {kind : Kind} {p : Pattern}
    (hp : p ∈ recognizers kind) (hsub : ' ' :: digitChars ⊆ alphabet)
    (hlacks : p.lacks alphabet = true) : ¬ p.Within cs := by
  refine not_within_of_lacks_digits hp (fun c hc => hsub (List.mem_cons_of_mem _ hc)) hlacks ?_
  intro c hc
  rcases h.mem_flatten hc with rfl | hc
  · exact Or.inl (hsub List.mem_cons_self)
  · exact hmem c hc

end Text

namespace Coefficient

section Value

variable {α : Type} [Scalar α] {c : Coefficient} {m : Match} {i : Nat}
  {caught : List (Nat × (List Char → Prop))}

theorem Spells.parseCoefficient_eq {cs : List Char} (h : c.Spells cs) :
    parseCoefficient (String.ofList cs) = (parseCoefficient c.text : α) := by
  have hsolid : solid cs = solid c.tokens.flatten := by
    rw [h, solid_of_not_blank c.tokens_tokens.not_blank]
  have htext : (String.ofList cs).toList.filter (fun c => !Text.isBlank c) =
      c.text.toList.filter fun c => !Text.isBlank c := by
    rw [String.toList_ofList, text, String.toList_ofList]
    exact hsolid
  simp only [parseCoefficient, htext]

theorem coefficientAt_of_catches (h : Catches m.groups caught)
    (hi : caught.lookup i = some c.Spells) : coefficientAt m i = (parseCoefficient c.text : α) := by
  obtain ⟨e, he, hspells⟩ := h.exists_of_lookup_eq_some hi
  rw [coefficientAt, Match.group, Match.group?, Match.capture?, he]
  exact hspells.parseCoefficient_eq

theorem termAt_of_catches {c? : Option Coefficient} (h : Catches m.groups caught)
    (hi : caught.lookup i = c?.map Spells) :
    termAt m i = (parseTerm (c?.map text) : α) := by
  rw [termAt, Match.group?, Match.capture?]
  cases c? with
  | none =>
      rw [h.lookup_eq_none hi]
      rfl
  | some c =>
      obtain ⟨e, he, hspells⟩ := h.exists_of_lookup_eq_some hi
      rw [he]
      exact hspells.parseCoefficient_eq

end Value

end Coefficient

end PolynomialText

end EquationTutor
