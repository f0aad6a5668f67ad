import EquationTutor.Numeric.Double
import EquationTutor.Proofs.Polynomial.Spelling
import EquationTutor.Reading.Parse
import Mathlib.Data.List.Chain
import Mathlib.Data.List.TakeWhile

namespace EquationTutor.Reading

open Text

variable {α : Type} [Scalar α] {c : Char} {cs ds w : List Char} {ws : List (List Char)}

theorem word_induction {P : List Char → Prop} (nil : P [])
    (blank : ∀ c cs, isBlank c = true → P cs → P (c :: cs))
    (word : ∀ w cs, w ≠ [] → (∀ c ∈ w, isBlank c = false) → (∀ c ∈ cs.head?, isBlank c = true) →
      P cs → P (w ++ cs)) (cs : List Char) : P cs := by
  induction hn : cs.length using Nat.strong_induction_on generalizing cs with
  | h n ih =>
    subst hn
    match cs with
    | [] => exact nil
    | c :: cs =>
      by_cases hc : isBlank c = true
      · exact blank c cs hc (ih cs.length (by simp) cs rfl)
      · let inWord : Char → Bool := fun d => !isBlank d
        have hcons : (c :: cs).takeWhile inWord = c :: cs.takeWhile inWord :=
          List.takeWhile_cons_of_pos (by simp [inWord, hc])
        have hsplit : (c :: cs).takeWhile inWord ++ (c :: cs).dropWhile inWord = c :: cs :=
          List.takeWhile_append_dropWhile
        have hlength := congrArg List.length hsplit
        rw [hcons] at hlength
        simp only [List.length_append, List.length_cons] at hlength
        rw [← hsplit]
        refine word _ _ (by simp [hcons]) (fun d hd => ?_) (fun d hd => ?_)
          (ih _ (by simp only [List.length_cons]; omega) _ rfl)
        · simpa [inWord] using List.mem_takeWhile_imp hd
        · have hstop := List.head?_dropWhile_not inWord (c :: cs)
          rw [Option.mem_def.mp hd] at hstop
          simpa [inWord] using hstop

theorem of_mem_wordsOfChars (h : w ∈ wordsOfChars cs) : w ≠ [] ∧ ∀ c ∈ w, isBlank c = false := by
  induction cs using word_induction with
  | nil => simp [wordsOfChars] at h
  | blank c cs hc ih =>
      rw [← List.singleton_append, wordsOfChars_append_of_blank (by simpa using hc)] at h
      exact ih h
  | word v cs hv hblank hend ih =>
      rw [wordsOfChars_append_of_end hv hblank hend] at h
      rcases List.mem_cons.mp h with rfl | h
      · exact ⟨hv, hblank⟩
      · exact ih h

/-- The typewriter form of a text, its blanks as they are. -/
def plainChars (cs : List Char) : List Char :=
  (caretForStars cs).flatMap plainGlyph

theorem normalizeChars_eq (cs : List Char) :
    normalizeChars cs = [' '].intercalate (wordsOfChars (plainChars cs)) :=
  rfl

theorem plainGlyph_of_mem (h : c ∈ glyphs) : plainGlyph c ≠ [] ∧
    ∀ d ∈ plainGlyph c, isBlank d = false ∧ d ∉ glyphs := by
  have hall : (glyphs.all fun c => !(plainGlyph c).isEmpty &&
      (plainGlyph c).all fun d => !isBlank d && !glyphs.contains d) = true := by decide
  simpa using List.all_eq_true.mp hall c h

theorem plainGlyph_ne_nil (c : Char) : plainGlyph c ≠ [] := by
  by_cases h : c ∈ glyphs
  · exact (plainGlyph_of_mem h).1
  · simp [plainGlyph_of_notMem h]

theorem notMem_glyphs_of_mem_plainGlyph {d : Char} (h : d ∈ plainGlyph c) : d ∉ glyphs := by
  by_cases hc : c ∈ glyphs
  · exact ((plainGlyph_of_mem hc).2 d h).2
  · rw [plainGlyph_of_notMem hc, List.mem_singleton] at h
    exact h ▸ hc

theorem not_blank_of_mem_plainGlyph {d : Char} (hc : isBlank c = false) (h : d ∈ plainGlyph c) :
    isBlank d = false := by
  by_cases hg : c ∈ glyphs
  · exact ((plainGlyph_of_mem hg).2 d h).1
  · rw [plainGlyph_of_notMem hg, List.mem_singleton] at h
    exact h ▸ hc

theorem caretForStars_append (h : ∀ c ∈ ds.head?, c ≠ '*') :
    caretForStars (cs ++ ds) = caretForStars cs ++ caretForStars ds := by
  induction cs using caretForStars.induct with
  | case1 rest ih => simp [caretForStars, ih]
  | case2 c rest hpair ih =>
      rw [List.cons_append, caretForStars, caretForStars, ih, List.cons_append]
      · exact hpair
      · rintro tail rfl htail
        cases rest with
        | nil => exact h '*' (by simp_all) rfl
        | cons d rest =>
            rw [List.cons_append, List.cons.injEq] at htail
            exact hpair rest rfl (by rw [htail.1])
  | case3 => rfl

theorem caretForStars_ne_nil (h : cs ≠ []) : caretForStars cs ≠ [] := by
  fun_cases caretForStars cs <;> simp_all

theorem mem_of_mem_caretForStars (h : c ∈ caretForStars cs) : c = '^' ∨ c ∈ cs := by
  induction cs using caretForStars.induct with
  | case1 rest ih =>
      rw [caretForStars, List.mem_cons] at h
      exact h.elim .inl fun h => (ih h).imp_right fun h => by simp [h]
  | case2 d rest hpair ih =>
      rw [caretForStars, List.mem_cons] at h
      · rcases h with rfl | h
        · exact .inr List.mem_cons_self
        · exact (ih h).imp_right (List.mem_cons_of_mem d)
      · exact hpair
  | case3 => cases h

theorem not_blank_of_mem_caretForStars (hcs : ∀ c ∈ cs, isBlank c = false)
    (h : c ∈ caretForStars cs) : isBlank c = false := by
  rcases mem_of_mem_caretForStars h with rfl | h
  · decide
  · exact hcs c h

theorem plainChars_cons_of_blank (h : isBlank c = true) :
    plainChars (c :: cs) = c :: plainChars cs := by
  rw [plainChars, caretForStars_cons (ne_star_of_blank h), List.flatMap_cons,
    plainGlyph_of_blank h]
  rfl

theorem plainChars_append (h : ∀ c ∈ ds.head?, isBlank c = true) :
    plainChars (cs ++ ds) = plainChars cs ++ plainChars ds := by
  rw [plainChars, caretForStars_append fun c hc => ne_star_of_blank (h c hc), List.flatMap_append]
  rfl

theorem blank_head_plainChars (h : ∀ c ∈ cs.head?, isBlank c = true) :
    ∀ c ∈ (plainChars cs).head?, isBlank c = true := by
  cases cs with
  | nil => simp [plainChars, caretForStars]
  | cons c cs =>
      have hc : isBlank c = true := h c rfl
      simpa [plainChars_cons_of_blank hc] using hc

theorem plainChars_ne_nil (h : cs ≠ []) : plainChars cs ≠ [] := by
  obtain ⟨c, rest, hc⟩ := List.exists_cons_of_ne_nil (caretForStars_ne_nil h)
  simp [plainChars, hc, plainGlyph_ne_nil]

theorem not_blank_of_mem_plainChars (hcs : ∀ c ∈ cs, isBlank c = false) :
    ∀ c ∈ plainChars cs, isBlank c = false := by
  intro c hc
  obtain ⟨d, hd, hcd⟩ := List.mem_flatMap.mp hc
  exact not_blank_of_mem_plainGlyph (not_blank_of_mem_caretForStars hcs hd) hcd

theorem notMem_glyphs_of_mem_plainChars (h : c ∈ plainChars cs) : c ∉ glyphs := by
  obtain ⟨d, -, hcd⟩ := List.mem_flatMap.mp h
  exact notMem_glyphs_of_mem_plainGlyph hcd

/-- The typewriter form makes and takes no blank: it works on each word by itself. -/
theorem wordsOfChars_plainChars (cs : List Char) :
    wordsOfChars (plainChars cs) = (wordsOfChars cs).map plainChars := by
  induction cs using word_induction with
  | nil => rfl
  | blank c cs hc ih =>
      have hone : ∀ d ∈ [c], isBlank d = true := by simpa using hc
      rw [plainChars_cons_of_blank hc, ← List.singleton_append,
        wordsOfChars_append_of_blank hone, ih, ← List.singleton_append (l := cs),
        wordsOfChars_append_of_blank hone]
  | word w cs hw hblank hend ih =>
      rw [plainChars_append hend, wordsOfChars_append_of_end (plainChars_ne_nil hw)
        (not_blank_of_mem_plainChars hblank) (blank_head_plainChars hend), ih,
        wordsOfChars_append_of_end hw hblank hend, List.map_cons]

theorem normalizeChars_of_words (h : wordsOfChars cs = wordsOfChars ds) :
    normalizeChars cs = normalizeChars ds := by
  rw [normalizeChars_eq, normalizeChars_eq, wordsOfChars_plainChars, wordsOfChars_plainChars, h]

theorem normalize_of_words {s t : String} (h : words s = words t) : normalize s = normalize t := by
  have hwords : wordsOfChars s.toList = wordsOfChars t.toList :=
    List.map_injective_iff.mpr (fun _ _ => String.ofList_injective) h
  rw [normalize, normalize, normalizeChars_of_words hwords]

/-- Words with one space between two of them, and no glyph that has a typewriter form. -/
structure IsNormalized (cs : List Char) : Prop where
  noBlankFirst : ∀ c ∈ cs.head?, isBlank c = false
  noBlankLast : ∀ c ∈ cs.getLast?, isBlank c = false
  noneRepeated : cs.IsChain fun c d => ¬ (isBlank c = true ∧ isBlank d = true)
  onlySpaces : ∀ c ∈ cs, isBlank c = true → c = ' '
  noGlyph : ∀ c ∈ cs, c ∉ glyphs

theorem IsNormalized.of_word (hblank : ∀ c ∈ w, isBlank c = false) (hglyph : ∀ c ∈ w, c ∉ glyphs) :
    IsNormalized w where
  noBlankFirst c hc := hblank c (List.mem_of_head? hc)
  noBlankLast c hc := hblank c (List.mem_of_getLast? hc)
  noneRepeated := List.Pairwise.isChain (List.pairwise_of_forall_mem_list fun c hc d _ h => by
    simp [hblank c hc] at h)
  onlySpaces c hc h := by simp [hblank c hc] at h
  noGlyph := hglyph

theorem IsNormalized.append (hcs : IsNormalized cs) (hds : IsNormalized ds) (hne : cs ≠ [])
    (hne' : ds ≠ []) : IsNormalized (cs ++ ' ' :: ds) where
  noBlankFirst := by simpa [List.head?_append_of_ne_nil _ hne] using hcs.noBlankFirst
  noBlankLast := by
    rw [← List.singleton_append, ← List.append_assoc, List.getLast?_append_of_ne_nil _ hne']
    exact hds.noBlankLast
  noneRepeated := by
    rw [List.isChain_append]
    refine ⟨hcs.noneRepeated, ?_, fun c hc d _ h => by simp [hcs.noBlankLast c hc] at h⟩
    rw [List.isChain_cons]
    exact ⟨fun d hd h => by simp [hds.noBlankFirst d hd] at h, hds.noneRepeated⟩
  onlySpaces c hc h := by
    rcases List.mem_append.mp hc with hc | hc
    · exact hcs.onlySpaces c hc h
    · rcases List.mem_cons.mp hc with rfl | hc
      · rfl
      · exact hds.onlySpaces c hc h
  noGlyph c hc := by
    rcases List.mem_append.mp hc with hc | hc
    · exact hcs.noGlyph c hc
    · rcases List.mem_cons.mp hc with rfl | hc
      · decide
      · exact hds.noGlyph c hc

theorem isNormalized_intercalate (hne : ∀ w ∈ ws, w ≠ []) (h : ∀ w ∈ ws, IsNormalized w) :
    IsNormalized ([' '].intercalate ws) := by
  induction ws with
  | nil => exact IsNormalized.of_word (by simp) (by simp)
  | cons w ws ih =>
      have hw : IsNormalized w := h w List.mem_cons_self
      have htail := ih (fun v hv => hne v (List.mem_cons_of_mem w hv))
        fun v hv => h v (List.mem_cons_of_mem w hv)
      cases ws with
      | nil => simpa using hw
      | cons v ws =>
          have hv : v ≠ [] := hne v (by simp)
          have hrest : [' '].intercalate (v :: ws) ≠ [] := by
            cases ws <;> simp [List.intercalate_cons_cons, hv]
          rw [List.intercalate_cons_cons, List.append_assoc, List.singleton_append]
          exact hw.append htail (hne w List.mem_cons_self) hrest

theorem isNormalized_normalizeChars (cs : List Char) : IsNormalized (normalizeChars cs) := by
  rw [normalizeChars_eq, wordsOfChars_plainChars]
  refine isNormalized_intercalate (fun v hv => ?_) fun v hv => ?_
  · obtain ⟨w, hw, rfl⟩ := List.mem_map.mp hv
    exact plainChars_ne_nil (of_mem_wordsOfChars hw).1
  · obtain ⟨w, hw, rfl⟩ := List.mem_map.mp hv
    exact IsNormalized.of_word (not_blank_of_mem_plainChars (of_mem_wordsOfChars hw).2)
      fun c hc => notMem_glyphs_of_mem_plainChars hc

/-- The questions have the same words, and else they are the same. -/
structure Question.SameWords (q q' : Question α) : Prop where
  equation : words (q.equation.getD "") = words (q'.equation.getD "")
  scenario : words (q.scenario.getD "") = words (q'.scenario.getD "")
  kindName : q.kindName = q'.kindName
  parameters : q.parameters = q'.parameters
  context : q.context = q'.context

theorem filter_normalize (scenario : Option String) :
    ((scenario.map normalize).filter fun s => !s.isEmpty) =
      (some (normalize (scenario.getD ""))).filter fun s => !s.isEmpty := by
  cases scenario with
  | none => rfl
  | some s => rfl

/-- Questions with the same words give the same failure, or the same problem but for the
equation as it was typed; and every normalized text is normal. -/
theorem parseProblem_of_sameWords :
    (∀ q q' : Question α, q.SameWords q' →
      parseProblem q' =
        (parseProblem q).map fun p => { p with input := q'.equation.getD "" }) ∧
      ∀ s, IsNormalized (normalize s).toList := by
  constructor
  · intro q q' h
    have hequation := normalize_of_words h.equation
    have hscenario := normalize_of_words h.scenario
    simp only [parseProblem, filter_normalize, hequation, hscenario, h.kindName, h.parameters,
      h.context]
    cases classify (normalize (q'.equation.getD ""))
        ((some (normalize (q'.scenario.getD ""))).filter fun s => !s.isEmpty) q'.kindName
        (q'.parameters.getD .empty) with
    | error failure => rfl
    | ok c => simp only [Except.map]
  · intro s
    rw [normalize, String.toList_ofList]
    exact isNormalized_normalizeChars s.toList

/-- A tab and a second space in the equation, and no scenario. -/
def widelySpaced : Question Float :=
  ⟨some "2x\t+  3 = 7", none, none, none, none⟩

/-- Single spaces but for the first, and a no-break space for a scenario. -/
def narrowlySpaced : Question Float :=
  ⟨some " 2x + 3 = 7", some "\u00a0", none, none, none⟩

theorem parseProblem_narrowlySpaced :
    widelySpaced.SameWords narrowlySpaced ∧
      parseProblem narrowlySpaced =
        (parseProblem widelySpaced).map fun p => { p with input := " 2x + 3 = 7" } := by
  have hwords : widelySpaced.SameWords narrowlySpaced := ⟨by decide, by decide, rfl, rfl, rfl⟩
  exact ⟨hwords, parseProblem_of_sameWords.1 widelySpaced narrowlySpaced hwords⟩

end EquationTutor.Reading
