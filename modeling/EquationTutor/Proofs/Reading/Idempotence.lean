import EquationTutor.Proofs.Reading.Spacing
/-!
Normalization done twice. Pairs of stars become carets before the other multiplication signs
become stars, so that two signs may leave a pair of stars behind. A second normalization takes
the pair for a caret; without such a pair it changes nothing, and a third one never does.
-/

namespace EquationTutor.Reading

open Text

variable {α : Type} [Scalar α] {c : Char} {cs ds : List Char} {ws : List (List Char)}

def isStar (c : Char) : Bool :=
  c = '*'

/-- The multiplication signs; all of them are written as stars. -/
def isTimes (c : Char) : Bool :=
  ['*', '·', '×', '⋅'].contains c

/-- No two neighbours are both of the class. -/
def NoneMeet (p : Char → Bool) (cs : List Char) : Prop :=
  cs.IsChain fun c d => ¬ (p c = true ∧ p d = true)

instance (p : Char → Bool) (cs : List Char) : Decidable (NoneMeet p cs) :=
  inferInstanceAs (Decidable (cs.IsChain fun c d => ¬ (p c = true ∧ p d = true)))

theorem noneMeet_cons {p : Char → Bool} :
    NoneMeet p (c :: cs) ↔ (∀ d ∈ cs.head?, ¬ (p c = true ∧ p d = true)) ∧ NoneMeet p cs :=
  List.isChain_cons

theorem noneMeet_append {p : Char → Bool} :
    NoneMeet p (cs ++ ds) ↔ NoneMeet p cs ∧ NoneMeet p ds ∧
      ∀ c ∈ cs.getLast?, ∀ d ∈ ds.head?, ¬ (p c = true ∧ p d = true) :=
  List.isChain_append

section Carets

theorem star_head_of_caretForStars (h : (caretForStars cs).head? = some '*') :
    cs.head? = some '*' := by
  fun_cases caretForStars cs with
  | case1 rest => simp
  | case2 c rest hpair =>
      rw [caretForStars] at h
      · exact h
      · exact hpair
  | case3 => exact h

theorem noneMeet_caretForStars (cs : List Char) : NoneMeet isStar (caretForStars cs) := by
  induction cs using caretForStars.induct with
  | case1 rest ih =>
      rw [caretForStars]
      exact noneMeet_cons.mpr ⟨fun d _ h => by simp [isStar] at h, ih⟩
  | case2 c rest hpair ih =>
      rw [caretForStars]
      · refine noneMeet_cons.mpr ⟨fun d hd h => ?_, ih⟩
        simp only [isStar, decide_eq_true_eq] at h
        obtain ⟨rfl, rfl⟩ := h
        have hstar := star_head_of_caretForStars hd
        cases rest with
        | nil => cases hstar
        | cons e rest => exact hpair rest rfl (by simpa using hstar)
      · exact hpair
  | case3 => exact .nil

/-- Stars that do not meet are no carets. -/
theorem caretForStars_eq_self_iff : caretForStars cs = cs ↔ NoneMeet isStar cs := by
  constructor
  · intro h
    rw [← h]
    exact noneMeet_caretForStars cs
  · intro h
    apply caretForStars_of_apart
    intro hpair
    have hchain : NoneMeet isStar ['*', '*'] := h.infix hpair
    exact absurd hchain (by decide)

end Carets

section Signs

theorem plainGlyph_stars (c : Char) :
    NoneMeet isStar (plainGlyph c) ∧
      (∃ d, (plainGlyph c).head? = some d ∧ isStar d = isTimes c) ∧
      ∃ d, (plainGlyph c).getLast? = some d ∧ isStar d = isTimes c := by
  by_cases h : c ∈ glyphs
  · have hall : (glyphs.all fun c => decide (NoneMeet isStar (plainGlyph c)) &&
        (plainGlyph c).head?.map isStar == some (isTimes c) &&
        (plainGlyph c).getLast?.map isStar == some (isTimes c)) = true := by decide
    simpa [and_assoc] using List.all_eq_true.mp hall c h
  · have hsame : isStar c = isTimes c := by
      simp only [glyphs, List.mem_cons, List.not_mem_nil, or_false, not_or] at h
      simp [isStar, isTimes, h]
    rw [plainGlyph_of_notMem h]
    exact ⟨.singleton c, ⟨c, rfl, hsame⟩, c, rfl, hsame⟩

theorem noneMeet_flatMap_plainGlyph (cs : List Char) :
    NoneMeet isStar (cs.flatMap plainGlyph) ↔ NoneMeet isTimes cs := by
  induction cs with
  | nil => exact iff_of_true .nil .nil
  | cons c cs ih =>
      obtain ⟨hinside, -, x, hx, hxc⟩ := plainGlyph_stars c
      rw [List.flatMap_cons, noneMeet_append, and_iff_right hinside, ih, noneMeet_cons, and_comm]
      refine and_congr_left fun _ => ?_
      cases cs with
      | nil => simp
      | cons d cs =>
          obtain ⟨-, ⟨y, hy, hyd⟩, -⟩ := plainGlyph_stars d
          rw [List.flatMap_cons, List.head?_append_of_ne_nil _ (plainGlyph_ne_nil d), hx, hy]
          simp [hxc, hyd]

end Signs

section Words

/-- No blank is of the class, so that neighbours of the class are in one word. -/
theorem noneMeet_iff_forall_word {p : Char → Bool} (hp : ∀ c, p c = true → isBlank c = false)
    (cs : List Char) : NoneMeet p cs ↔ ∀ w ∈ wordsOfChars cs, NoneMeet p w := by
  induction cs using word_induction with
  | nil => exact iff_of_true .nil (by simp [wordsOfChars])
  | blank c cs hc ih =>
      have hone : ∀ d ∈ [c], isBlank d = true := by simpa using hc
      rw [← List.singleton_append, wordsOfChars_append_of_blank hone, ← ih, List.singleton_append,
        noneMeet_cons]
      refine and_iff_right fun d _ h => ?_
      simp [hp c h.1] at hc
  | word w cs hw hblank hend ih =>
      rw [wordsOfChars_append_of_end hw hblank hend, List.forall_mem_cons, ← ih,
        noneMeet_append, ← and_assoc]
      refine and_iff_left fun c _ d hd h => ?_
      have := hend d hd
      simp [hp d h.2] at this

theorem wordsOfChars_intercalate (hne : ∀ w ∈ ws, w ≠ [])
    (hblank : ∀ w ∈ ws, ∀ c ∈ w, isBlank c = false) :
    wordsOfChars ([' '].intercalate ws) = ws := by
  induction ws with
  | nil => rfl
  | cons w ws ih =>
      have hw := hne w List.mem_cons_self
      have hwblank := hblank w List.mem_cons_self
      have ih := ih (fun v hv => hne v (List.mem_cons_of_mem w hv))
        fun v hv => hblank v (List.mem_cons_of_mem w hv)
      cases ws with
      | nil =>
          have hend : ∀ c ∈ ([] : List Char).head?, isBlank c = true := nofun
          simpa [wordsOfChars] using wordsOfChars_append_of_end hw hwblank hend
      | cons v ws =>
          have hspace : ∀ c ∈ [' '], isBlank c = true := List.forall_mem_singleton.mpr rfl
          rw [List.intercalate_cons_cons, List.append_assoc,
            wordsOfChars_append_of_end hw hwblank (by simpa using hspace),
            wordsOfChars_append_of_blank hspace, ih]

end Words

section Twice

theorem wordsOfChars_normalizeChars (cs : List Char) :
    wordsOfChars (normalizeChars cs) = (wordsOfChars cs).map plainChars := by
  rw [normalizeChars_eq, wordsOfChars_plainChars]
  apply wordsOfChars_intercalate
  · intro v hv
    obtain ⟨w, hw, rfl⟩ := List.mem_map.mp hv
    exact plainChars_ne_nil (of_mem_wordsOfChars hw).1
  · intro v hv
    obtain ⟨w, hw, rfl⟩ := List.mem_map.mp hv
    exact not_blank_of_mem_plainChars (of_mem_wordsOfChars hw).2

/-- In typewriter characters only pairs of stars are left to be written anew. -/
theorem plainChars_plainChars (cs : List Char) :
    plainChars (plainChars cs) = caretForStars (plainChars cs) := by
  rw [plainChars]
  apply flatMap_plainGlyph
  intro c hc
  apply plainGlyph_of_notMem
  rcases mem_of_mem_caretForStars hc with rfl | hc
  · decide
  · exact notMem_glyphs_of_mem_plainChars hc

theorem normalizeChars_eq_iff (cs ds : List Char) :
    normalizeChars cs = normalizeChars ds ↔
      (wordsOfChars cs).map plainChars = (wordsOfChars ds).map plainChars := by
  constructor
  · intro h
    rw [← wordsOfChars_normalizeChars, ← wordsOfChars_normalizeChars, h]
  · intro h
    rw [normalizeChars_eq, normalizeChars_eq, wordsOfChars_plainChars, wordsOfChars_plainChars, h]

theorem normalizeChars_normalizeChars_iff (cs : List Char) :
    normalizeChars (normalizeChars cs) = normalizeChars cs ↔
      NoneMeet isTimes (caretForStars cs) := by
  have hstar (c : Char) (hc : isStar c = true) : isBlank c = false := by
    obtain rfl : c = '*' := of_decide_eq_true hc
    decide
  rw [normalizeChars_eq_iff, wordsOfChars_normalizeChars, List.map_map]
  calc
    _ ↔ ∀ w ∈ wordsOfChars cs, NoneMeet isStar (plainChars w) := by
      refine List.map_inj_left.trans (forall₂_congr fun w _ => ?_)
      rw [Function.comp_apply, plainChars_plainChars]
      exact caretForStars_eq_self_iff
    _ ↔ NoneMeet isStar (plainChars cs) := by
      rw [noneMeet_iff_forall_word hstar, wordsOfChars_plainChars, List.forall_mem_map]
    _ ↔ NoneMeet isTimes (caretForStars cs) := noneMeet_flatMap_plainGlyph _

/-- A second normalization leaves no pair of stars. -/
theorem noneMeet_caretForStars_normalizeChars (cs : List Char) :
    NoneMeet isTimes (caretForStars (normalizeChars cs)) := by
  have hplain : (caretForStars (normalizeChars cs)).flatMap plainGlyph =
      caretForStars (normalizeChars cs) := by
    apply flatMap_plainGlyph
    intro c hc
    apply plainGlyph_of_notMem
    rcases mem_of_mem_caretForStars hc with rfl | hc
    · decide
    · exact (isNormalized_normalizeChars cs).noGlyph c hc
  rw [← noneMeet_flatMap_plainGlyph, hplain]
  exact noneMeet_caretForStars _

theorem normalize_normalize_iff (s : String) :
    normalize (normalize s) = normalize s ↔ NoneMeet isTimes (caretForStars s.toList) := by
  rw [← normalizeChars_normalizeChars_iff]
  simp only [normalize, String.toList_ofList]
  exact ⟨fun h => String.ofList_injective h, congrArg String.ofList⟩

theorem normalize_third (s : String) :
    normalize (normalize (normalize s)) = normalize (normalize s) := by
  rw [normalize_normalize_iff, normalize, String.toList_ofList]
  exact noneMeet_caretForStars_normalizeChars s.toList

end Twice

section Question

/-- The question with its texts normalized. -/
def Question.normalized (q : Question α) : Question α :=
  { q with
    equation := q.equation.map normalize
    scenario := q.scenario.map normalize }

theorem parseProblem_normalized {q : Question α}
    (hequation : ∀ s ∈ q.equation, normalize (normalize s) = normalize s)
    (hscenario : ∀ s ∈ q.scenario, normalize (normalize s) = normalize s) :
    parseProblem q.normalized =
      (parseProblem q).map fun p => { p with input := p.normalized } := by
  have hinput : (q.equation.map normalize).getD "" = normalize (q.equation.getD "") := by
    cases q.equation with
    | none => rfl
    | some s => rfl
  have htext : normalize (normalize (q.equation.getD "")) = normalize (q.equation.getD "") := by
    cases hq : q.equation with
    | none => rfl
    | some s => exact hequation s hq
  have htexts : (q.scenario.map normalize).map normalize = q.scenario.map normalize := by
    cases hq : q.scenario with
    | none => rfl
    | some s => exact congrArg some (hscenario s hq)
  simp only [parseProblem, Question.normalized, hinput, htext, htexts]
  cases classify (normalize (q.equation.getD ""))
      ((q.scenario.map normalize).filter fun s => !s.isEmpty) q.kindName
      (q.parameters.getD .empty) with
  | error failure => rfl
  | ok c => rfl

end Question

/-- A text is normal after one normalization if and only if no two multiplication signs are
neighbours once the pairs of stars are carets; after two it always is. A question of such texts
gives the same problem in its normalized form. -/
theorem normalize_idempotent_iff :
    (∀ s : String, normalize (normalize s) = normalize s ↔
      NoneMeet isTimes (caretForStars s.toList)) ∧
    (∀ s : String, normalize (normalize (normalize s)) = normalize (normalize s)) ∧
    ∀ q : Question α, (∀ s ∈ q.equation, NoneMeet isTimes (caretForStars s.toList)) →
      (∀ s ∈ q.scenario, NoneMeet isTimes (caretForStars s.toList)) →
      parseProblem q.normalized =
        (parseProblem q).map fun p => { p with input := p.normalized } := by
  refine ⟨normalize_normalize_iff, normalize_third, ?_⟩
  intro q hequation hscenario
  apply parseProblem_normalized
  · intro s hs
    exact (normalize_normalize_iff s).mpr (hequation s hs)
  · intro s hs
    exact (normalize_normalize_iff s).mpr (hscenario s hs)

/-- A product sign in print, and a power with a pair of stars. -/
def productOfPower : Question Float :=
  ⟨some "3·2**x = 24", none, none, none, none⟩

theorem parseProblem_productOfPower :
    (∀ s ∈ productOfPower.equation, NoneMeet isTimes (caretForStars s.toList)) ∧
      normalize (normalize "3·2**x = 24") = normalize "3·2**x = 24" ∧
      parseProblem productOfPower.normalized =
        (parseProblem productOfPower).map fun p => { p with input := p.normalized } := by
  have hapart : NoneMeet isTimes (caretForStars "3·2**x = 24".toList) := by decide
  have hequation : ∀ s ∈ productOfPower.equation, NoneMeet isTimes (caretForStars s.toList) := by
    rintro s ⟨⟩
    exact hapart
  obtain ⟨htwice, -, hparse⟩ := normalize_idempotent_iff (α := Float)
  exact ⟨hequation, (htwice _).mpr hapart, hparse productOfPower hequation nofun⟩

/-- Two dots become a pair of stars, and the pair becomes a caret only when the text is
normalized again. -/
theorem not_idempotent_of_two_dots :
    normalize "x··2 - 4 = 0" = "x**2 - 4 = 0" ∧ normalize "x**2 - 4 = 0" = "x^2 - 4 = 0" ∧
      normalize (normalize "x··2 - 4 = 0") ≠ normalize "x··2 - 4 = 0" := by
  have hfirst : normalize "x··2 - 4 = 0" = "x**2 - 4 = 0" := by decide
  have hsecond : normalize "x**2 - 4 = 0" = "x^2 - 4 = 0" := by decide
  rw [hfirst, hsecond]
  exact ⟨rfl, rfl, by decide⟩

end EquationTutor.Reading
