import EquationTutor.Proofs.Pattern.Leftmost
import EquationTutor.Proofs.Teaching.Substitution
import EquationTutor.Teaching.Vocabulary
import Mathlib.Data.List.Basic
import Mathlib.Data.List.Induction

namespace EquationTutor.Teaching

open Pattern

variable {entries : List (String × String)} {e f : String × String} {w : Bool}
  {cs taken rest : List Char}

section Replace

variable {before : List Char} (hproper : IsProper e.1)
include hproper

theorem isWordChar_head? (h : taken.map foldCase = e.1.toList) (rest : List Char) :
    (taken ++ rest).head?.any Text.isWordChar = true := by
  obtain ⟨c, t, rfl, hc, -⟩ := hproper.exists_cons h
  simpa using hc

theorem isWordChar_getLast? (h : taken.map foldCase = e.1.toList) (before : List Char) :
    (before ++ taken).getLast?.any Text.isWordChar = true := by
  obtain ⟨c, t, rfl, -, hlast⟩ := hproper.exists_cons h
  rwa [List.getLast?_append_of_ne_nil before (List.cons_ne_nil c t)]

theorem takes_termPattern : (termPattern e.1).Takes before taken rest ↔
    IsTerm e.1 (before.getLast?.any Text.isWordChar) taken rest := by
  simp only [termPattern, cat, takes_seq, takes_word hproper.lower]
  constructor
  · rintro ⟨_, _, rfl, ⟨rfl, hbefore⟩, taken, _, rfl, hfolded, rfl, hbehind⟩
    rw [List.append_nil, isWordChar_head? hproper hfolded] at hbefore
    rw [List.append_nil, isWordChar_getLast? hproper hfolded] at hbehind
    exact ⟨by simpa using hfolded, by simpa using hbefore, by simpa using hbehind.symm⟩
  · rintro ⟨hfolded, hbefore, hbehind⟩
    refine ⟨[], taken, rfl, ⟨rfl, ?_⟩, taken, [], (List.append_nil taken).symm, hfolded, rfl, ?_⟩
    · rw [isWordChar_head? hproper hfolded, hbefore]
      decide
    · rw [List.append_nil, isWordChar_getLast? hproper hfolded, hbehind]
      decide

theorem rewrites_replaceFrom : Rewrites [e] (before.getLast?.any Text.isWordChar) cs
    ((termPattern e.1).replaceFrom e.2.toList (Cursor.after before cs)) := by
  have htakes (before taken rest : List Char) (h : (termPattern e.1).Takes before taken rest) :
      taken ≠ [] := by
    obtain ⟨c, t, rfl, -⟩ := ((takes_termPattern hproper).mp h).exists_cons hproper
    exact List.cons_ne_nil c t
  induction hn : cs.length using Nat.strong_induction_on generalizing before cs with
  | _ n ih =>
  subst hn
  by_cases hrefuses : (termPattern e.1).Refuses before cs
  · cases cs with
    | nil =>
        rw [replaceFrom_eq_self]
        · exact .nil
        · intro s t hst
          obtain ⟨rfl, rfl⟩ := List.append_eq_nil_iff.mp hst.symm
          rwa [List.append_nil]
    | cons c cs =>
        have htail := @ih cs.length (Nat.lt_succ_self _) cs (before ++ [c]) rfl
        rw [List.getLast?_concat, Option.any_some] at htail
        rw [replaceFrom_cons_of_refuses htakes hrefuses]
        refine .keep (fun f hf taken rest hsplit hterm => ?_) htail
        rw [List.mem_singleton.mp hf] at hterm
        exact hrefuses taken rest hsplit ((takes_termPattern hproper).mpr hterm)
  · obtain ⟨taken, rest, g, rfl, hbest⟩ := exists_best_of_not_refuses hrefuses
    have hterm := (takes_termPattern hproper).mp (takes_of_best hbest)
    have hlength : rest.length < (taken ++ rest).length := by
      have := List.length_pos_iff.mpr (htakes _ _ _ (takes_of_best hbest))
      rw [List.length_append]
      omega
    have htail := @ih rest.length hlength rest (before ++ taken) rfl
    rw [isWordChar_getLast? hproper hterm.folded] at htail
    rw [replaceFrom_of_best htakes hbest]
    exact .replace List.mem_cons_self rfl hterm htail

theorem rewrites_replaceTerm (text : String) :
    Rewrites [e] false text.toList (replaceTerm text e).toList := by
  have hstart : Rewrites [e] (([] : List Char).getLast?.any Text.isWordChar) text.toList _ :=
    rewrites_replaceFrom hproper
  rw [replaceTerm, replaceAll, String.toList_ofList]
  exact hstart

end Replace

/-- No replacement runs into the term of another entry, and nothing into the later words of
one. -/
structure Independent (entries : List (String × String)) : Prop where
  replacement : ∀ e ∈ entries, ∀ b ∈ wordStarts false (e.2.toList.map foldCase),
    ∀ f ∈ entries, e ≠ f → Apart f.1.toList b
  term : ∀ f ∈ entries, ∀ b ∈ wordStarts true f.1.toList.tail,
    ∀ e ∈ entries, e ≠ f → Apart e.1.toList b ∧ Apart (e.2.toList.map foldCase) b

theorem Independent.compatible (h : Independent entries) (he : e ∈ entries) (hf : f ∈ entries)
    (hne : e ≠ f) : Compatible e f :=
  ⟨fun b hb => h.replacement e he b hb f hf hne, fun b hb => h.term f hf b hb e he hne⟩

theorem rewrites_nil : Rewrites [] w cs cs := by
  induction cs generalizing w with
  | nil => exact .nil
  | cons c cs ih => exact .keep (fun e he => absurd he List.not_mem_nil) ih

/-- Terms replaced one after another are all replaced at once. -/
theorem rewrites_foldl {used : List (String × String)} (hproper : ∀ e ∈ entries, IsProper e.1)
    (hentries : Independent entries) (hused : used ⊆ entries) (hnodup : used.Nodup)
    (text : String) : Rewrites used false text.toList (used.foldl replaceTerm text).toList := by
  induction used using List.reverseRecOn with
  | nil => exact rewrites_nil
  | append_singleton used f ih =>
      obtain ⟨hused, hf⟩ := List.append_subset.mp hused
      obtain ⟨hnodup, -, hlast⟩ := List.nodup_append.mp hnodup
      have hf : f ∈ entries := hf List.mem_cons_self
      rw [List.foldl_append]
      refine ((ih hused hnodup).trans (hproper f hf) (fun e he => ?_)
        (fun e he => hproper e (hused he)) (.inl rfl)
        (rewrites_replaceTerm (hproper f hf) _)).congr fun e => by simp [or_comm]
      exact hentries.compatible (hused he) hf (hlast e he f List.mem_cons_self)

instance (e f : String × String) : Decidable (Compatible e f) :=
  decidable_of_iff
    ((∀ b ∈ wordStarts false (e.2.toList.map foldCase), Apart f.1.toList b) ∧
      ∀ b ∈ wordStarts true f.1.toList.tail,
        Apart e.1.toList b ∧ Apart (e.2.toList.map foldCase) b)
    ⟨fun h => ⟨h.1, h.2⟩, fun h => ⟨h.replacement, h.term⟩⟩

instance (entries : List (String × String)) : Decidable (Independent entries) :=
  decidable_of_iff
    ((∀ e ∈ entries, ∀ b ∈ wordStarts false (e.2.toList.map foldCase),
        ∀ f ∈ entries, e ≠ f → Apart f.1.toList b) ∧
      ∀ f ∈ entries, ∀ b ∈ wordStarts true f.1.toList.tail,
        ∀ e ∈ entries, e ≠ f → Apart e.1.toList b ∧ Apart (e.2.toList.map foldCase) b)
    ⟨fun h => ⟨h.1, h.2⟩, fun h => ⟨h.replacement, h.term⟩⟩

theorem isProper_replacements (level : Level) : ∀ e ∈ replacements level, IsProper e.1 := by
  have hbasic : ∀ e ∈ replacements .basic, IsProper e.1 := by decide +kernel
  cases level with
  | basic | scaffolded => exact hbasic
  | intermediate | detailed => decide +kernel

theorem independent_replacements (level : Level) : Independent (replacements level) := by
  have hbasic : Independent (replacements .basic) := by decide +kernel
  cases level with
  | basic | scaffolded => exact hbasic
  | intermediate | detailed => decide +kernel

theorem unambiguous_replacements (level : Level) : Unambiguous (replacements level) := by
  have hbasic : Unambiguous (replacements .basic) := by
    unfold Unambiguous
    decide +kernel
  cases level with
  | basic | scaffolded => exact hbasic
  | intermediate | detailed =>
      unfold Unambiguous
      decide +kernel

theorem nodup_replacements (level : Level) : (replacements level).Nodup := by
  cases level <;> decide +kernel

theorem compatible_replacements {level : Level} (hlevel : level = .basic ∨ level = .scaffolded) :
    ∀ e ∈ replacements level, Compatible e e ∧ e.2.toList ≠ [] := by
  have hbasic : ∀ e ∈ replacements .basic, Compatible e e ∧ e.2.toList ≠ [] := by decide +kernel
  rcases hlevel with rfl | rfl
  · exact hbasic
  · exact hbasic

/-- The term stands in the text as a whole word, or as several, in either case. -/
def HasTerm (term text : String) : Prop :=
  ∃ before taken after, text.toList = before ++ (taken ++ after) ∧
    taken.map foldCase = term.toList ∧ before.getLast?.any Text.isWordChar = false ∧
    after.head?.any Text.isWordChar = false

/-- The terms of a level, replaced in any order, are replaced at once. -/
theorem rewrites_of_perm {level : Level} (hperm : entries.Perm (replacements level))
    (text : String) :
    Rewrites (replacements level) false text.toList (entries.foldl replaceTerm text).toList :=
  (rewrites_foldl (isProper_replacements level) (independent_replacements level) hperm.subset
    (hperm.nodup_iff.mpr (nodup_replacements level)) text).congr fun _ => hperm.mem_iff

section Beginners

variable {level : Level} (hlevel : level = .basic ∨ level = .scaffolded)
include hlevel

theorem replaceTerm_rephrase (text : String) (he : e ∈ replacements level) :
    replaceTerm (rephrase level text) e = rephrase level text := by
  have hproper := isProper_replacements level
  have hcompatible (d : String × String) (hd : d ∈ replacements level) : Compatible d e := by
    by_cases hde : d = e
    · rw [hde]
      exact (compatible_replacements hlevel e he).1
    · exact (independent_replacements level).compatible hd he hde
  have honce := rewrites_of_perm (List.Perm.refl (replacements level)) text
  have hagain : Rewrites (replacements level) false text.toList
      (replaceTerm (rephrase level text) e).toList :=
    (honce.trans (hproper e he) hcompatible hproper (.inl rfl)
      (rewrites_replaceTerm (hproper e he) _)).congr fun d => by
        simpa using fun hd : d = e => hd ▸ he
  exact String.toList_inj.mp (hagain.unique (unambiguous_replacements level) hproper honce)

theorem not_hasTerm_rephrase (text : String) (he : e ∈ replacements level) :
    ¬ HasTerm e.1 (rephrase level text) := by
  rintro ⟨before, taken, after, hsplit, hfolded, hbefore, hafter⟩
  have hproper := isProper_replacements level e he
  obtain ⟨hself, hne⟩ := compatible_replacements hlevel e he
  have hfixed := rewrites_replaceTerm hproper (rephrase level text)
  rw [replaceTerm_rephrase hlevel text he, hsplit] at hfixed
  exact hfixed.not_isTerm hproper hself hne
    ⟨hfolded, by rw [endsInWord_false, hbefore], hafter⟩

theorem rephrase_rephrase (text : String) :
    rephrase level (rephrase level text) = rephrase level text := by
  have hfold (entries : List (String × String)) (hsub : entries ⊆ replacements level) :
      entries.foldl replaceTerm (rephrase level text) = rephrase level text := by
    induction entries with
    | nil => rfl
    | cons e entries ih =>
        obtain ⟨he, hsub⟩ := List.cons_subset.mp hsub
        rw [List.foldl_cons, replaceTerm_rephrase hlevel text he, ih hsub]
  exact hfold _ (List.Subset.refl _)

end Beginners

/-- The terms that beginners do not meet. -/
def jargon : List String :=
  ["discriminant", "coefficients", "coefficient", "quadratic", "logarithm", "exponential",
    "conjugates", "determinant", "interval notation", "critical points"]

theorem mem_jargon_iff {level : Level} (hlevel : level = .basic ∨ level = .scaffolded)
    {term : String} : term ∈ jargon ↔ ∃ e ∈ replacements level, e.1 = term := by
  have hterms : (replacements level).map Prod.fst = jargon := by
    rcases hlevel with rfl | rfl <;> decide
  rw [← hterms, List.mem_map]

theorem not_hasTerm_of_mem_jargon {level : Level} (hlevel : level = .basic ∨ level = .scaffolded)
    (text : String) {term : String} (h : term ∈ jargon) : ¬ HasTerm term (rephrase level text) := by
  obtain ⟨e, he, rfl⟩ := (mem_jargon_iff hlevel).mp h
  exact not_hasTerm_rephrase hlevel text he

/-- The replacements of a level may come in any order, and for beginners no term is left. -/
theorem rephrase_of_any_order (level : Level) (text : String) :
    (∀ entries : List (String × String), entries.Perm (replacements level) →
      entries.foldl replaceTerm text = rephrase level text) ∧
    (level = .basic ∨ level = .scaffolded →
      (∀ e ∈ replacements level, ¬ HasTerm e.1 (rephrase level text)) ∧
        rephrase level (rephrase level text) = rephrase level text) := by
  refine ⟨fun entries hperm => ?_, fun hlevel => ⟨fun e he => ?_, ?_⟩⟩
  · exact String.toList_inj.mp ((rewrites_of_perm hperm text).unique
      (unambiguous_replacements level) (isProper_replacements level)
      (rewrites_of_perm (List.Perm.refl _) text))
  · exact not_hasTerm_rephrase hlevel text he
  · exact rephrase_rephrase hlevel text

/-- Two terms with nothing but a blank between them, of which the second begins with another. -/
def metTerms : String :=
  "Quadratic coefficients"

/-- Read from the last term to the first, such a text is left without terms as well. -/
theorem rephrase_metTerms :
    (replacements .basic).reverse.foldl replaceTerm metTerms =
      "x-squared numbers in front of the terms" ∧
    rephrase .basic (rephrase .basic metTerms) = rephrase .basic metTerms := by
  obtain ⟨horder, hbeginners⟩ := rephrase_of_any_order .basic metTerms
  refine ⟨?_, (hbeginners (.inl rfl)).2⟩
  rw [horder _ (List.reverse_perm _)]
  decide +kernel

end EquationTutor.Teaching
