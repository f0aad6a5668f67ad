import EquationTutor.Proofs.Polynomial.Records

namespace EquationTutor

open PolynomialText Reading Pattern

namespace PolynomialText

/-- A sign and a factor before a power; a factor that is written is followed by a star. -/
def Term.product (t : Term) : List (List Char) :=
  t.lead ++ t.factor.toList.map fun _ => ['*']

def Unsigned.power (n : Unsigned) : List (List Char) :=
  [n.chars, ['^'], ['x']]

def Unsigned.ofDigits (whole fraction : List Char)
    (hdigits : (whole ++ fraction).all Char.isDigit = true)
    (hne : (whole ++ fraction).isEmpty = false) : Unsigned where
  whole := whole
  fraction := fraction
  isDigit_whole c hc := List.all_eq_true.mp hdigits c (List.mem_append_left _ hc)
  isDigit_fraction c hc := List.all_eq_true.mp hdigits c (List.mem_append_right _ hc)
  ne_nil := by
    rw [List.isEmpty_eq_false_iff, Ne, List.append_eq_nil_iff, not_and_or] at hne
    exact hne

def powerAlphabet : List Char :=
  '*' :: sideAlphabet

section Tokens

variable {t : Term} {n : Unsigned} {s : List Char}

theorem mem_powerAlphabet_of_lead (h : s ∈ t.lead) : s ≠ [] ∧ ∀ c ∈ s, c ∈ powerAlphabet := by
  obtain ⟨hne, hs⟩ := t.mem_tokens (List.mem_append_left _ h)
  exact ⟨hne, fun c hc => List.mem_cons_of_mem _ (hs c hc)⟩

theorem mem_powerAlphabet_of_product (h : s ∈ t.product) :
    s ≠ [] ∧ ∀ c ∈ s, c ∈ powerAlphabet := by
  rcases List.mem_append.mp h with h | h
  · exact mem_powerAlphabet_of_lead h
  · obtain ⟨n, -, rfl⟩ := List.mem_map.mp h
    simp [powerAlphabet]

theorem mem_powerAlphabet_of_power (h : s ∈ n.power) :
    s ≠ [] ∧ ∀ c ∈ s, c ∈ powerAlphabet := by
  simp only [Unsigned.power, List.mem_cons, List.not_mem_nil, or_false] at h
  rcases h with rfl | rfl | rfl
  · refine ⟨n.chars_ne_nil, fun c hc => List.mem_cons_of_mem _ ?_⟩
    rcases n.mem_chars hc with h | rfl
    · exact mem_sideAlphabet_of_isDigit h
    · decide
  · simp [powerAlphabet, sideAlphabet]
  · simp [powerAlphabet, sideAlphabet]

theorem notMem_chars (n : Unsigned) {c : Char} (hc : c.isDigit = false) (hpoint : c ≠ '.') :
    c ∉ n.chars := by
  intro h
  rcases n.mem_chars h with h | h
  · rw [hc] at h
    cases h
  · exact hpoint h

theorem notMem_lead (t : Term) {c : Char} (hc : c.isDigit = false) (hother : c ∉ ['.', '+', '-']) :
    ∀ s ∈ t.lead, c ∉ s := by
  intro s hs hmem
  rcases (t.mem_lead hs).2 c hmem with h | h
  · rw [hc] at h
    cases h
  · exact hother (by simpa using h)

theorem notMem_product (t : Term) {c : Char} (hc : c.isDigit = false)
    (hother : c ∉ ['.', '+', '-', '*']) : ∀ s ∈ t.product, c ∉ s := by
  intro s hs hmem
  simp only [List.mem_cons, List.not_mem_nil, or_false, not_or] at hother
  obtain ⟨hpoint, hplus, hminus, hstar⟩ := hother
  rcases List.mem_append.mp hs with hs | hs
  · exact notMem_lead t hc (by simp [hpoint, hplus, hminus]) s hs hmem
  · obtain ⟨n, -, rfl⟩ := List.mem_map.mp hs
    exact hstar (by simpa using hmem)

@[simp] theorem count_star_chars (n : Unsigned) : n.chars.count '*' = 0 :=
  List.count_eq_zero.mpr (notMem_chars n (by decide) (by decide))

@[simp] theorem count_star_lead (t : Term) : t.lead.flatten.count '*' = 0 := by
  rw [List.count_eq_zero, List.mem_flatten]
  rintro ⟨s, hs, hc⟩
  exact notMem_lead t (by decide) (by decide) s hs hc

@[simp] theorem count_star_product (t : Term) :
    t.product.flatten.count '*' = if t.factor.isSome then 1 else 0 := by
  cases hn : t.factor <;> simp [Term.product, hn]

@[simp] theorem count_star_power (n : Unsigned) : n.power.flatten.count '*' = 0 := by
  simp [Unsigned.power]

/-- Normalization leaves the tokens alone and single spaces between them. -/
theorem spelled_normalize_of_powers {ts : List (List Char)} {text : String}
    (hts : ∀ s ∈ ts, s ≠ [] ∧ ∀ c ∈ s, c ∈ '(' :: ')' :: (powerAlphabet ++ relationAlphabet))
    (hstars : ts.flatten.count '*' ≤ 1) (h : Spaced Text.isBlank ts text.toList) :
    Spelled (· == ' ') ts (normalize text).toList := by
  have hall : ∀ c ∈ '(' :: ')' :: (powerAlphabet ++ relationAlphabet),
      Text.isBlank c = false ∧ plainGlyph c = [c] :=
    List.all_iff_forall_prop.mp (by decide)
  exact spelled_normalize_of_apart
    (fun s hs => ⟨(hts s hs).1, fun c hc => hall c ((hts s hs).2 c hc)⟩)
    (apart_of_count_le hstars) h

end Tokens

theorem Unsigned.exists_concat (n : Unsigned) :
    ∃ cs d, n.chars = cs ++ [d] ∧ Text.isDigit d = true := by
  rcases n.chars_eq with ⟨hf, hchars⟩ | ⟨hf, hchars⟩
  · have hwhole : n.whole ≠ [] := n.ne_nil.resolve_right fun h => h hf
    obtain ⟨cs, d, hcs⟩ := (List.eq_nil_or_concat n.whole).resolve_left hwhole
    rw [List.concat_eq_append] at hcs
    exact ⟨cs, d, by rw [hchars, hcs],
      textIsDigit_of_isDigit (n.isDigit_whole d (by simp [hcs]))⟩
  · obtain ⟨cs, d, hcs⟩ := (List.eq_nil_or_concat n.fraction).resolve_left hf
    rw [List.concat_eq_append] at hcs
    exact ⟨n.whole ++ '.' :: cs, d, by rw [hchars, hcs, List.append_assoc, List.cons_append],
      textIsDigit_of_isDigit (n.isDigit_fraction d (by simp [hcs]))⟩

section Layout

variable {us : List (List Char)} {cs : List Char}

/-- The sign and the factor of a term and the star behind the factor, with spaces behind each. -/
structure Term.Multiplies (t : Term) (lead gap star : List Char) : Prop where
  leads : t.Leads lead gap
  star_eq_nil : t.factor = none → star = []
  exists_star : t.factor.isSome = true → ∃ g, star = '*' :: g ∧ ∀ c ∈ g, c = ' '

theorem Term.Multiplies.mem {t : Term} {lead gap star : List Char}
    (h : t.Multiplies lead gap star) :
    ∀ c ∈ lead ++ (gap ++ star), c ∈ '*' :: ' ' :: '.' :: '+' :: '-' :: digitChars := by
  intro c hc
  rw [← List.append_assoc] at hc
  rcases List.mem_append.mp hc with hc | hc
  · exact List.mem_cons_of_mem _ (h.leads.mem c hc)
  · cases hn : t.factor with
    | none =>
        rw [h.star_eq_nil hn] at hc
        cases hc
    | some n =>
        obtain ⟨g, rfl, hg⟩ := h.exists_star (by simp [hn])
        rcases List.mem_cons.mp hc with rfl | hc
        · exact List.mem_cons_self
        · simp [hg c hc]

theorem Term.exists_multiplies_of_spelled (t : Term)
    (h : Spelled (· == ' ') (t.product ++ us) cs) :
    ∃ lead gap star rest, cs = lead ++ (gap ++ (star ++ rest)) ∧ t.Multiplies lead gap star ∧
      Spelled (· == ' ') us rest := by
  rw [product, List.append_assoc] at h
  obtain ⟨lead, gap, _, rfl, hleads, h⟩ := t.exists_leads_of_spelled_lead h
  obtain ⟨star, rest, rfl, hstar, hrest⟩ := spelled_append.mp h
  refine ⟨lead, gap, star, rest, rfl, ⟨hleads, ?_, ?_⟩, hrest⟩
  · intro hnone
    rw [hnone] at hstar
    exact hstar
  · intro hsome
    obtain ⟨n, hn⟩ := Option.isSome_iff_exists.mp hsome
    rw [hn] at hstar
    obtain ⟨g, rfl, hg⟩ := spelled_singleton.mp hstar
    exact ⟨g, rfl, by simpa using hg⟩

/-- The exponent `x` behind a base. -/
structure ExponentAt (cs : List Char) : Prop where
  exists_eq : ∃ g g' g'', cs = g ++ '^' :: (g' ++ 'x' :: g'') ∧ (∀ c ∈ g, c = ' ') ∧
    (∀ c ∈ g', c = ' ') ∧ ∀ c ∈ g'', c = ' '

theorem exists_exponentAt_of_spelled {n : Unsigned}
    (h : Spelled (· == ' ') (n.power ++ us) cs) :
    ∃ exponent rest, cs = n.chars ++ (exponent ++ rest) ∧ ExponentAt exponent ∧
      Spelled (· == ' ') us rest := by
  obtain ⟨g, _, rfl, hg, g', _, rfl, hg', g'', rest, rfl, hg'', hrest⟩ := h
  exact ⟨g ++ '^' :: (g' ++ 'x' :: g''), rest, by simp,
    ⟨g, g', g'', rfl, by simpa using hg, by simpa using hg', by simpa using hg''⟩, hrest⟩

end Layout

section Best

variable {before rest : List Char} {g g' : Groups}

theorem best_exponentX {exponent : List Char} (h : ExponentAt exponent)
    (hrest : ∀ c ∈ rest.head?, Text.isBlank c = false ∧ c ≠ ')') :
    exponentX.Best before exponent rest g g := by
  obtain ⟨a, b, b', rfl, ha, hb, hb'⟩ := h.exists_eq
  have hcaret : exponentOpening.Best before (a ++ ('^' :: (b ++ []))) ('x' :: b' ++ rest) g g := by
    refine best_seq (best_blanks (allBlank_of_eq_space ha) ?_)
      (best_seq (s := ['^']) best_char (best_seq (best_blanks (allBlank_of_eq_space hb) ?_)
        (best_optional_of_refuses (refuses_one ?_)))) <;>
    · intro c hc
      obtain rfl : _ = c := by simpa using hc
      decide
  have hsplit : a ++ '^' :: (b ++ 'x' :: b') = (a ++ ('^' :: (b ++ []))) ++ ([] ++ ('x' :: (b' ++
      ([] ++ [])))) := by
    simp
  rw [hsplit]
  refine best_seq (by simpa using hcaret) (best_seq (best_blanks allBlank_nil ?_)
    (best_seq (s := ['x']) best_char (best_seq (best_blanks (allBlank_of_eq_space hb') ?_)
      (best_seq (best_optional_of_refuses (refuses_one ?_)) (best_blanks allBlank_nil ?_)))))
  · intro c hc
    obtain rfl : 'x' = c := by simpa using hc
    decide
  · exact fun c hc => (hrest c hc).1
  · intro c hc
    simpa using (hrest c hc).2
  · exact fun c hc => (hrest c hc).1

theorem ExponentAt.numberEnds {exponent : List Char} (h : ExponentAt exponent)
    (rest : List Char) : NumberEnds (exponent ++ rest) := by
  obtain ⟨a, b, b', rfl, ha, -, -⟩ := h.exists_eq
  rw [List.append_assoc]
  exact numberEnds_variable ha (by decide) _

theorem best_base (n : Unsigned) (hrest : NumberEnds rest) :
    base.Best before n.chars rest g g :=
  best_alt_left (best_number n hrest)

end Best

section Value

variable {α : Type} [Scalar α] (n : Unsigned)

theorem parseCoefficient_chars : parseCoefficient (String.ofList n.chars) = (n.value : α) :=
  parseCoefficient_of_spaces ⟨none, some n, .constant, fun _ => rfl⟩ (g := []) (by simp)

theorem baseValue_chars : baseValue (String.ofList n.chars) = (n.value : α) := by
  have hne : Text.trim (String.ofList n.chars) ≠ "e" := by
    intro h
    have hmem : 'e' ∈ (Text.trim (String.ofList n.chars)).toList := by
      rw [h]
      decide
    simp only [Text.trim, String.toList_ofList, List.mem_reverse] at hmem
    have hchars : 'e' ∈ n.chars := (List.dropWhile_sublist _).mem
      (List.mem_reverse.mp ((List.dropWhile_sublist _).mem hmem))
    rcases n.mem_chars hchars with h | h
    · revert h
      decide
    · cases h
  rw [baseValue, if_neg hne, parseCoefficient_chars]

end Value

end PolynomialText

end EquationTutor
