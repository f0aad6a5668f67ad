import EquationTutor.Proofs.Polynomial.Syntax
import EquationTutor.Reading.Normalize

namespace EquationTutor

variable {gap : Char → Bool} {ts us : List (List Char)} {cs : List Char}

theorem spelled_append : Spelled gap (ts ++ us) cs ↔
    ∃ x y, cs = x ++ y ∧ Spelled gap ts x ∧ Spelled gap us y := by
  induction ts generalizing cs with
  | nil =>
      constructor
      · intro h
        exact ⟨[], cs, rfl, rfl, h⟩
      · rintro ⟨x, y, rfl, rfl, h⟩
        exact h
  | cons t ts ih =>
      constructor
      · rintro ⟨g, rest, rfl, hg, h⟩
        obtain ⟨x, y, rfl, hx, hy⟩ := ih.mp h
        exact ⟨t ++ g ++ x, y, by simp, ⟨g, x, rfl, hg, hx⟩, hy⟩
      · rintro ⟨x, y, rfl, ⟨g, rest, rfl, hg, hrest⟩, hy⟩
        exact ⟨g, rest ++ y, by simp, hg, ih.mpr ⟨rest, y, rfl, hrest, hy⟩⟩

theorem spelled_singleton {t : List Char} :
    Spelled gap [t] cs ↔ ∃ g, cs = t ++ g ∧ ∀ c ∈ g, gap c = true := by
  constructor
  · rintro ⟨g, rest, rfl, hg, rfl⟩
    exact ⟨g, by simp, hg⟩
  · rintro ⟨g, rfl, hg⟩
    exact ⟨g, [], by simp, hg, rfl⟩

theorem mem_of_spelled (h : Spelled gap ts cs) {c : Char} (hc : c ∈ cs) :
    gap c = true ∨ ∃ t ∈ ts, c ∈ t := by
  induction ts generalizing cs with
  | nil =>
      obtain rfl : cs = [] := h
      simp at hc
  | cons t ts ih =>
      obtain ⟨g, rest, rfl, hg, hrest⟩ := h
      simp only [List.mem_append] at hc
      rcases hc with (hc | hc) | hc
      · exact Or.inr ⟨t, List.mem_cons_self, hc⟩
      · exact Or.inl (hg c hc)
      · rcases ih hrest hc with hgap | ⟨s, hs, hcs⟩
        · exact Or.inl hgap
        · exact Or.inr ⟨s, List.mem_cons_of_mem t hs, hcs⟩

theorem ne_empty_of_spelled {gap : Char → Bool} {ts : List (List Char)} {s : String}
    (h : Spelled gap ts s.toList) {t : List Char} (ht : t ∈ ts) (hne : t ≠ []) : s ≠ "" := by
  rintro rfl
  obtain ⟨as, bs, rfl⟩ := List.append_of_mem ht
  obtain ⟨x, y, hxy, -, g, rest, rfl, -⟩ := spelled_append.mp h
  simp [hne] at hxy

theorem notMem_of_spelled {c : Char} (hc : gap c = false) (hts : ∀ t ∈ ts, c ∉ t)
    (h : Spelled gap ts cs) : c ∉ cs := by
  intro hmem
  rcases mem_of_spelled h hmem with hgap | ⟨t, ht, hct⟩
  · rw [hgap] at hc
    cases hc
  · exact hts t ht hct

theorem count_of_spelled {c : Char} (hc : gap c = false) (h : Spelled gap ts cs) :
    cs.count c = ts.flatten.count c := by
  induction ts generalizing cs with
  | nil =>
      obtain rfl : cs = [] := h
      rfl
  | cons t ts ih =>
      obtain ⟨g, rest, rfl, hg, hrest⟩ := h
      have hnone : g.count c = 0 := by
        rw [List.count_eq_zero]
        intro hmem
        rw [hg c hmem] at hc
        cases hc
      rw [List.count_append, List.count_append, hnone, ih hrest, List.flatten_cons,
        List.count_append, Nat.add_zero]

/-- The tokens are what is left without the characters between them. -/
theorem filter_of_spelled (hts : ∀ t ∈ ts, ∀ c ∈ t, gap c = false) (h : Spelled gap ts cs) :
    cs.filter (fun c => !gap c) = ts.flatten := by
  induction ts generalizing cs with
  | nil =>
      obtain rfl : cs = [] := h
      rfl
  | cons t ts ih =>
      obtain ⟨g, rest, rfl, hg, hrest⟩ := h
      have ht : t.filter (fun c => !gap c) = t := by
        simpa [List.filter_eq_self] using hts t List.mem_cons_self
      have hgap : g.filter (fun c => !gap c) = [] := by
        simpa [List.filter_eq_nil_iff] using hg
      rw [List.filter_append, List.filter_append, ht, hgap, List.append_nil, List.flatten_cons,
        ih (fun s hs => hts s (List.mem_cons_of_mem t hs)) hrest]

/-- The tokens, with characters around each that may stand between tokens. -/
def Spaced (gap : Char → Bool) (ts : List (List Char)) (cs : List Char) : Prop :=
  ∃ g rest, cs = g ++ rest ∧ (∀ c ∈ g, gap c = true) ∧ Spelled gap ts rest

section Spaced

variable {ds : List Char}

theorem spaced_gap {g : List Char} (hg : ∀ c ∈ g, gap c = true) : Spaced gap [] g :=
  ⟨g, [], by simp, hg, rfl⟩

theorem Spelled.spaced (h : Spelled gap ts cs) : Spaced gap ts cs :=
  ⟨[], cs, rfl, by simp, h⟩

theorem spelled_flatten (ts : List (List Char)) : Spelled gap ts ts.flatten := by
  induction ts with
  | nil => rfl
  | cons t ts ih => exact ⟨[], ts.flatten, by simp, by simp, ih⟩

theorem spelled_of_gaps (gaps : List (List Char)) (hlength : gaps.length = ts.length)
    (hgaps : gaps.flatten.all gap = true)
    (hcs : cs = (List.zipWith (· ++ ·) ts gaps).flatten) : Spelled gap ts cs := by
  subst hcs
  induction ts generalizing gaps with
  | nil => rfl
  | cons t ts ih =>
      obtain ⟨g, gaps, rfl⟩ := List.exists_cons_of_length_eq_add_one hlength
      rw [List.flatten_cons, List.all_append, Bool.and_eq_true] at hgaps
      exact ⟨g, _, by simp, List.all_eq_true.mp hgaps.1, ih gaps (by simpa using hlength) hgaps.2⟩

theorem Spelled.append_gap (hts : ts ≠ []) (h : Spelled gap ts cs) {g : List Char}
    (hg : ∀ c ∈ g, gap c = true) : Spelled gap ts (cs ++ g) := by
  induction ts generalizing cs with
  | nil => exact absurd rfl hts
  | cons t ts ih =>
      obtain ⟨g', rest, rfl, hg', hrest⟩ := h
      cases ts with
      | nil =>
          obtain rfl : rest = [] := hrest
          refine ⟨g' ++ g, [], by simp, ?_, rfl⟩
          intro c hc
          rcases List.mem_append.mp hc with hc | hc
          · exact hg' c hc
          · exact hg c hc
      | cons u us => exact ⟨g', rest ++ g, by simp, hg', ih (by simp) hrest⟩

theorem Spaced.append (hts : Spaced gap ts cs) (hus : Spaced gap us ds) :
    Spaced gap (ts ++ us) (cs ++ ds) := by
  obtain ⟨g, rest, rfl, hg, hrest⟩ := hts
  obtain ⟨g', rest', rfl, hg', hrest'⟩ := hus
  by_cases h : ts = []
  · subst h
    obtain rfl : rest = [] := hrest
    refine ⟨g ++ g', rest', by simp, ?_, hrest'⟩
    intro c hc
    rcases List.mem_append.mp hc with hc | hc
    · exact hg c hc
    · exact hg' c hc
  · -- the characters before the second text go to the last token of the first
    exact ⟨g, (rest ++ g') ++ rest', by simp, hg,
      spelled_append.mpr ⟨_, _, rfl, hrest.append_gap h hg', hrest'⟩⟩

end Spaced

namespace Reading

open Text

theorem wordsOfChars_append_of_blank {g : List Char} (hg : ∀ c ∈ g, isBlank c = true)
    (cs : List Char) : wordsOfChars (g ++ cs) = wordsOfChars cs := by
  induction g with
  | nil => rfl
  | cons c g ih =>
      rw [List.cons_append, wordsOfChars.eq_def]
      simp only [hg c List.mem_cons_self, if_true]
      exact ih fun x hx => hg x (List.mem_cons_of_mem c hx)

theorem wordsOfChars_cons_cons {c : Char} (hc : isBlank c = false) (d : Char)
    (cs : List Char) : wordsOfChars (c :: d :: cs) =
      if isBlank d then [c] :: wordsOfChars (d :: cs)
      else match wordsOfChars (d :: cs) with
        | [] => [[c]]
        | w :: ws => (c :: w) :: ws := by
  rw [wordsOfChars.eq_def]
  exact if_neg (by simp [hc])

theorem wordsOfChars_append_of_end {t : List Char} (ht : t ≠ [])
    (hblank : ∀ c ∈ t, isBlank c = false) {cs : List Char}
    (hcs : ∀ c ∈ cs.head?, isBlank c = true) : wordsOfChars (t ++ cs) = t :: wordsOfChars cs := by
  induction t with
  | nil => exact absurd rfl ht
  | cons c t ih =>
      have hc : isBlank c = false := hblank c List.mem_cons_self
      cases t with
      | nil =>
          cases cs with
          | nil => simp [wordsOfChars, hc]
          | cons d cs =>
              have hd : isBlank d = true := hcs d rfl
              rw [List.singleton_append, wordsOfChars_cons_cons hc, if_pos hd]
      | cons d t =>
          have hd : isBlank d = false := hblank d (by simp)
          have htail := ih (by simp) fun x hx => hblank x (List.mem_cons_of_mem c hx)
          simp only [List.cons_append] at htail ⊢
          rw [wordsOfChars_cons_cons hc, htail]
          simp [hd]

theorem wordsOfChars_append_of_word {t : List Char} (ht : t ≠ [])
    (hblank : ∀ c ∈ t, isBlank c = false) {d : Char} (hd : isBlank d = false)
    (cs : List Char) :
    ∃ w ws, wordsOfChars (d :: cs) = w :: ws ∧
      wordsOfChars (t ++ d :: cs) = (t ++ w) :: ws := by
  have hfirst : ∃ w ws, wordsOfChars (d :: cs) = w :: ws := by
    rw [wordsOfChars.eq_def]
    simp only [hd, Bool.false_eq_true, if_false]
    split
    · exact ⟨_, _, rfl⟩
    · split
      · exact ⟨_, _, rfl⟩
      · split <;> exact ⟨_, _, rfl⟩
  obtain ⟨w, ws, hw⟩ := hfirst
  refine ⟨w, ws, hw, ?_⟩
  induction t with
  | nil => exact absurd rfl ht
  | cons c t ih =>
      have hc : isBlank c = false := hblank c List.mem_cons_self
      cases t with
      | nil =>
          rw [List.singleton_append, wordsOfChars_cons_cons hc, hw]
          simp [hd]
      | cons b t =>
          have hb : isBlank b = false := hblank b (by simp)
          have htail := ih (by simp) fun x hx => hblank x (List.mem_cons_of_mem c hx)
          simp only [List.cons_append] at htail ⊢
          rw [wordsOfChars_cons_cons hc, htail]
          simp [hb]

theorem spelled_intercalate_wordsOfChars (hts : ∀ t ∈ ts, t ≠ [])
    (hblank : ∀ t ∈ ts, ∀ c ∈ t, isBlank c = false) (h : Spelled isBlank ts cs) :
    Spelled (· == ' ') ts ([' '].intercalate (wordsOfChars cs)) := by
  induction ts generalizing cs with
  | nil =>
      obtain rfl : cs = [] := h
      rfl
  | cons t ts ih =>
      obtain ⟨g, rest, rfl, hg, hrest⟩ := h
      have ht := hts t List.mem_cons_self
      have htblank := hblank t List.mem_cons_self
      have hts' : ∀ s ∈ ts, s ≠ [] := fun s hs => hts s (List.mem_cons_of_mem t hs)
      have hblank' : ∀ s ∈ ts, ∀ c ∈ s, isBlank c = false :=
        fun s hs => hblank s (List.mem_cons_of_mem t hs)
      have hspelled := ih hts' hblank' hrest
      rw [List.append_assoc]
      by_cases hend : ∀ c ∈ (g ++ rest).head?, isBlank c = true
      · rw [wordsOfChars_append_of_end ht htblank hend, wordsOfChars_append_of_blank hg]
        cases hwords : wordsOfChars rest with
        | nil =>
            rw [hwords] at hspelled
            exact ⟨[], _, by simp, by simp, hspelled⟩
        | cons w ws =>
            rw [hwords] at hspelled
            exact ⟨[' '], _, by simp [List.intercalate_cons_cons], by simp, hspelled⟩
      · have hnil : g = [] := by
          cases g with
          | nil => rfl
          | cons c g => exact absurd (fun d hd => hg d (by simp_all)) hend
        subst hnil
        cases rest with
        | nil => exact absurd (by simp) hend
        | cons d rest =>
            have hd : isBlank d = false := by simpa using hend
            obtain ⟨w, ws, hwords, hjoined⟩ := wordsOfChars_append_of_word ht htblank hd rest
            rw [hwords] at hspelled
            rw [List.nil_append, hjoined]
            refine ⟨[], _, ?_, by simp, hspelled⟩
            cases ws <;> simp [List.intercalate_cons_cons]

/-- The glyphs with a typewriter form of their own. -/
def glyphs : List Char :=
  ['≤', '≥', '≠', '²', '³', '·', '×', '⋅', '−', '–']

theorem not_blank_of_mem_glyphs (h : c ∈ glyphs) : isBlank c = false := by
  have hall : (glyphs.all fun c => !isBlank c) = true := by decide
  simpa using List.all_eq_true.mp hall c h

theorem plainGlyph_of_notMem (h : c ∉ glyphs) : plainGlyph c = [c] := by
  simp only [glyphs, List.mem_cons, List.not_mem_nil, or_false, not_or] at h
  simp [plainGlyph, h]

theorem plainGlyph_of_blank (h : isBlank c = true) : plainGlyph c = [c] :=
  plainGlyph_of_notMem fun hc => by simp [not_blank_of_mem_glyphs hc] at h

theorem ne_star_of_blank (h : isBlank c = true) : c ≠ '*' := by
  rintro rfl
  exact absurd h (by decide)

theorem caretForStars_cons (h : c ≠ '*') : caretForStars (c :: cs) = c :: caretForStars cs := by
  rw [caretForStars]
  intro rest heq
  exact absurd heq h

theorem flatMap_plainGlyph {cs : List Char} (h : ∀ c ∈ cs, plainGlyph c = [c]) :
    cs.flatMap plainGlyph = cs := by
  induction cs with
  | nil => rfl
  | cons c cs ih =>
      rw [List.flatMap_cons, h c List.mem_cons_self,
        ih fun d hd => h d (List.mem_cons_of_mem c hd)]
      rfl

theorem caretForStars_of_apart (h : ¬ ['*', '*'] <:+: cs) : caretForStars cs = cs := by
  induction cs using caretForStars.induct with
  | case1 rest ih => exact absurd ⟨[], rest, rfl⟩ h
  | case2 c rest hpair ih =>
      rw [caretForStars, ih fun hrest => h (hrest.trans (List.suffix_cons c rest).isInfix)]
      exact hpair
  | case3 => rfl

theorem apart_of_count_le (h : cs.count '*' ≤ 1) : ¬ ['*', '*'] <:+: cs := by
  intro hsub
  have := hsub.sublist.count_le '*'
  simp only [List.count_cons_self, List.count_nil] at this
  omega

theorem normalizeChars_of_plain (hstars : ¬ ['*', '*'] <:+: cs)
    (h : ∀ c ∈ cs, plainGlyph c = [c]) :
    normalizeChars cs = [' '].intercalate (wordsOfChars cs) := by
  rw [normalizeChars, caretForStars_of_apart hstars, flatMap_plainGlyph h]

/-- Normalization brings the tokens of a text closer together, if no two stars meet. -/
theorem spelled_normalize_of_apart {text : String}
    (hts : ∀ t ∈ ts, t ≠ [] ∧ ∀ c ∈ t, isBlank c = false ∧ plainGlyph c = [c])
    (hstars : ¬ ['*', '*'] <:+: ts.flatten) (h : Spaced isBlank ts text.toList) :
    Spelled (· == ' ') ts (normalize text).toList := by
  obtain ⟨g, rest, htext, hg, hrest⟩ := h
  have hblank : g.filter (fun c => !isBlank c) = [] := by
    simpa [List.filter_eq_nil_iff] using hg
  have hflatten : (g ++ rest).filter (fun c => !isBlank c) = ts.flatten := by
    rw [List.filter_append, hblank, List.nil_append,
      filter_of_spelled (fun t ht c hc => ((hts t ht).2 c hc).1) hrest]
  have hapart : ¬ ['*', '*'] <:+: g ++ rest := by
    intro hsub
    have := hsub.filter fun c => !isBlank c
    rw [hflatten] at this
    exact hstars this
  have hplain : ∀ c ∈ g ++ rest, plainGlyph c = [c] := by
    intro c hc
    rcases List.mem_append.mp hc with hc | hc
    · exact plainGlyph_of_blank (hg c hc)
    · rcases mem_of_spelled hrest hc with hc | ⟨t, ht, hc⟩
      · exact plainGlyph_of_blank hc
      · exact ((hts t ht).2 c hc).2
  rw [normalize, String.toList_ofList, htext, normalizeChars_of_plain hapart hplain,
    wordsOfChars_append_of_blank hg]
  exact spelled_intercalate_wordsOfChars (fun t ht => (hts t ht).1)
    (fun t ht c hc => ((hts t ht).2 c hc).1) hrest

end Reading

end EquationTutor
