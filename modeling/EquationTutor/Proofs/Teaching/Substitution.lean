import EquationTutor.Proofs.Pattern.Words
/-!
Terms replaced all at once: a text is read once, and whichever of the terms stands at a place is
replaced. A term more can be replaced afterwards as well, if no term and no replacement can run
into another one.
-/

namespace EquationTutor.Teaching

open Pattern

/-- Whether there is a word character at the end of a text, before which `w` tells it. -/
def endsInWord : Bool → List Char → Bool
  | w, [] => w
  | _, c :: cs => endsInWord (Text.isWordChar c) cs

/-- What is left of a text at each of its places that no small letter precedes; a word can start
at no other place. -/
def wordStarts : Bool → List Char → List (List Char)
  | _, [] => []
  | w, c :: cs => if w then wordStarts c.isLower cs else (c :: cs) :: wordStarts c.isLower cs

/-- A piece of a text is the term up to case, and a whole word or several. -/
structure IsTerm (term : String) (w : Bool) (taken rest : List Char) : Prop where
  folded : taken.map foldCase = term.toList
  before : w = false
  behind : rest.head?.any Text.isWordChar = false

/-- The text read once, with each term of the entries replaced where it stands. -/
inductive Rewrites (entries : List (String × String)) : Bool → List Char → List Char → Prop
  | nil {w : Bool} : Rewrites entries w [] []
  | keep {w : Bool} {c : Char} {cs out : List Char}
      (none : ∀ e ∈ entries, ∀ taken rest, c :: cs = taken ++ rest → ¬ IsTerm e.1 w taken rest)
      (tail : Rewrites entries (Text.isWordChar c) cs out) : Rewrites entries w (c :: cs) (c :: out)
  | replace {w : Bool} {e : String × String} {cs taken rest out : List Char} (mem : e ∈ entries)
      (split : cs = taken ++ rest) (term : IsTerm e.1 w taken rest)
      (tail : Rewrites entries true rest out) : Rewrites entries w cs (e.2.toList ++ out)

/-- A lower-case term that begins and ends with a letter. -/
structure IsProper (term : String) : Prop where
  lower : ∀ l ∈ term.toList, foldCase l = l
  first : term.toList.head?.any Text.isWordChar = true
  last : term.toList.getLast?.any Text.isWordChar = true

/-- Neither of the texts begins with the other. -/
def Apart (xs ys : List Char) : Prop :=
  ¬ xs <+: ys ∧ ¬ ys <+: xs

instance (xs ys : List Char) : Decidable (Apart xs ys) :=
  inferInstanceAs (Decidable (_ ∧ _))

instance (term : String) : Decidable (IsProper term) :=
  decidable_of_iff ((term.toList.all fun l => foldCase l = l) = true ∧
      term.toList.head?.any Text.isWordChar = true ∧
      term.toList.getLast?.any Text.isWordChar = true)
    ⟨fun h => ⟨List.all_iff_forall_prop.mp h.1, h.2.1, h.2.2⟩,
      fun h => ⟨List.all_iff_forall_prop.mpr h.lower, h.first, h.last⟩⟩

variable {entries : List (String × String)} {e f : String × String} {term : String} {w w' : Bool}
  {xs ys cs mid out taken rest : List Char} {c : Char}

theorem endsInWord_cons : endsInWord w (c :: xs) = (c :: xs).getLast?.any Text.isWordChar := by
  induction xs generalizing w c with
  | nil => rfl
  | cons d xs ih => exact ih (w := Text.isWordChar c)

theorem endsInWord_false : endsInWord false xs = xs.getLast?.any Text.isWordChar := by
  cases xs with
  | nil => rfl
  | cons c xs => exact endsInWord_cons

theorem not_apart_of_append_eq {xs' ys' : List Char} (h : xs ++ xs' = ys ++ ys') :
    ¬ Apart (xs.map foldCase) (ys.map foldCase) := by
  rintro ⟨hxy, hyx⟩
  rcases List.prefix_or_prefix_of_prefix (List.prefix_append xs xs') ⟨ys', h.symm⟩ with hp | hp
  · exact hxy (hp.map foldCase)
  · exact hyx (hp.map foldCase)

theorem Rewrites.cases_cons (h : Rewrites entries w (c :: cs) out) :
    (∃ out', out = c :: out' ∧ Rewrites entries (Text.isWordChar c) cs out' ∧
      ∀ e ∈ entries, ∀ taken rest, c :: cs = taken ++ rest → ¬ IsTerm e.1 w taken rest) ∨
    ∃ e ∈ entries, ∃ taken rest out', c :: cs = taken ++ rest ∧ out = e.2.toList ++ out' ∧
      IsTerm e.1 w taken rest ∧ Rewrites entries true rest out' := by
  cases h with
  | keep hnone htail => exact .inl ⟨_, rfl, htail, hnone⟩
  | replace hmem hsplit hterm htail => exact .inr ⟨_, hmem, _, _, _, hsplit, rfl, hterm, htail⟩

theorem isWordChar_of_isLower (h : c.isLower = true) : Text.isWordChar c = true :=
  have hletter : c.isAlpha = true := Bool.or_eq_true_iff.mpr (.inr h)
  isWordChar_of_isAlphanum (Bool.or_eq_true_iff.mpr (.inl hletter))

theorem isProper_of_all_isLower {terms : List String}
    (h : ∀ term ∈ terms, term.toList ≠ [] ∧ term.toList.all Char.isLower = true) :
    ∀ term ∈ terms, IsProper term := by
  intro term hmem
  obtain ⟨hne, hall⟩ := h term hmem
  have hlower := List.all_eq_true.mp hall
  refine ⟨fun l hl => foldCase_of_isLower (hlower l hl), ?_, ?_⟩
  · rw [List.head?_eq_some_head hne]
    exact isWordChar_of_isLower (hlower _ (List.head_mem hne))
  · rw [List.getLast?_eq_some_getLast hne]
    exact isWordChar_of_isLower (hlower _ (List.getLast_mem hne))

theorem mem_wordStarts_self (c : Char) (cs : List Char) : c :: cs ∈ wordStarts false (c :: cs) :=
  List.mem_cons_self

theorem mem_wordStarts_cons {b : List Char} (h : b ∈ wordStarts c.isLower cs) :
    b ∈ wordStarts w (c :: cs) := by
  cases w with
  | false => exact List.mem_cons_of_mem _ h
  | true => exact h

section Apart

variable {v : Bool} (hv : v = true → w = true)
include hv

theorem IsTerm.eq_false (h : IsTerm term w taken rest) : v = false :=
  Bool.eq_false_iff.mpr fun htrue => absurd (hv htrue) (Bool.eq_false_iff.mp h.before)

theorem Rewrites.exists_rest_of_apart (h : Rewrites entries w (xs ++ ys) out)
    (hapart : ∀ b ∈ wordStarts v (xs.map foldCase), ∀ e ∈ entries, Apart e.1.toList b) :
    ∃ rest, out = xs ++ rest ∧ Rewrites entries (endsInWord w xs) ys rest := by
  induction xs generalizing v w out with
  | nil => exact ⟨out, rfl, h⟩
  | cons c xs ih =>
      rcases h.cases_cons with ⟨out, rfl, htail, -⟩ | ⟨e, he, taken, rest, -, hsplit, -, hterm, -⟩
      · obtain ⟨rest, rfl, hrest⟩ := ih
          (fun hlower => isWordChar_foldCase c ▸ isWordChar_of_isLower hlower) htail
          fun b hb => hapart b (mem_wordStarts_cons hb)
        exact ⟨rest, rfl, hrest⟩
      · obtain rfl := hterm.eq_false hv
        have hcomes := hapart _ (mem_wordStarts_self _ _) e he
        rw [← hterm.folded, ← List.map_cons] at hcomes
        exact absurd hcomes (not_apart_of_append_eq hsplit.symm)

theorem Rewrites.exists_source_of_apart (h : Rewrites entries w cs (xs ++ ys))
    (hapart : ∀ b ∈ wordStarts v (xs.map foldCase), ∀ e ∈ entries,
      Apart (e.2.toList.map foldCase) b) :
    ∃ rest, cs = xs ++ rest ∧ Rewrites entries (endsInWord w xs) rest ys := by
  induction xs generalizing v w cs with
  | nil => exact ⟨cs, rfl, h⟩
  | cons c xs ih =>
      generalize hout : c :: xs ++ ys = out at h
      cases h with
      | nil => cases hout
      | keep hnone htail =>
          obtain ⟨rfl, rfl⟩ : c = _ ∧ xs ++ ys = _ := List.cons.inj hout
          obtain ⟨rest, rfl, hrest⟩ := ih
            (fun hlower => isWordChar_foldCase c ▸ isWordChar_of_isLower hlower) htail
            fun b hb => hapart b (mem_wordStarts_cons hb)
          exact ⟨rest, rfl, hrest⟩
      | replace he hsplit hterm htail =>
          obtain rfl := hterm.eq_false hv
          have hcomes := hapart _ (mem_wordStarts_self _ _) _ he
          rw [← List.map_cons] at hcomes
          exact absurd hcomes (not_apart_of_append_eq hout.symm)

end Apart

/-- The replacement of a term, and another term, cannot run into each other. -/
structure Compatible (e f : String × String) : Prop where
  replacement : ∀ b ∈ wordStarts false (e.2.toList.map foldCase), Apart f.1.toList b
  term : ∀ b ∈ wordStarts true f.1.toList.tail,
    Apart e.1.toList b ∧ Apart (e.2.toList.map foldCase) b

theorem IsProper.exists_cons (hproper : IsProper term) (h : taken.map foldCase = term.toList) :
    ∃ c t, taken = c :: t ∧ Text.isWordChar c = true ∧
      (c :: t).getLast?.any Text.isWordChar = true := by
  have hfirst := hproper.first
  have hlast := hproper.last
  rw [← h] at hfirst hlast
  cases taken with
  | nil => cases hfirst
  | cons c t =>
      refine ⟨c, t, rfl, by simpa [isWordChar_foldCase] using hfirst, ?_⟩
      simpa only [List.getLast?_map, Option.any_map, isWordChar_foldCase] using hlast

theorem IsTerm.exists_cons (hproper : IsProper term) (h : IsTerm term w taken rest) :
    ∃ c t, taken = c :: t ∧ Text.isWordChar c = true ∧ t.map foldCase = term.toList.tail ∧
      endsInWord true t = true := by
  obtain ⟨c, t, rfl, hc, hlast⟩ := hproper.exists_cons h.folded
  refine ⟨c, t, rfl, hc, by rw [← h.folded, List.map_cons, List.tail_cons], ?_⟩
  rwa [← endsInWord_cons (w := true), endsInWord, hc] at hlast

theorem IsTerm.isWordChar (hproper : IsProper term) (h : IsTerm term w taken rest)
    (hsplit : c :: cs = taken ++ rest) : Text.isWordChar c = true := by
  obtain ⟨d, t, rfl, hd, -⟩ := h.exists_cons hproper
  obtain ⟨rfl, -⟩ : c = d ∧ cs = t ++ rest := List.cons.inj hsplit
  exact hd

theorem IsTerm.length_lt (hproper : IsProper term) (h : IsTerm term w taken rest)
    (hsplit : cs = taken ++ rest) : rest.length < cs.length := by
  obtain ⟨d, t, rfl, -⟩ := h.exists_cons hproper
  rw [hsplit, List.length_append, List.length_cons]
  omega

/-- Behind a word nothing is replaced, so what follows it still follows. -/
theorem Rewrites.head?_eq (h : Rewrites entries true cs out) : out.head? = cs.head? := by
  cases h with
  | nil => rfl
  | keep => rfl
  | replace he hsplit hterm htail => cases hterm.before

theorem Rewrites.eq_nil (hproper : ∀ e ∈ entries, IsProper e.1) (h : Rewrites entries w [] out) :
    out = [] := by
  generalize hcs : [] = cs at h
  cases h with
  | nil => rfl
  | keep => cases hcs
  | replace he hsplit hterm htail =>
      obtain ⟨c, t, rfl, -⟩ := hterm.exists_cons (hproper _ he)
      cases hcs.trans hsplit

section Trans

variable (hf : IsProper f.1) (hcompatible : ∀ e ∈ entries, Compatible e f)
include hf hcompatible

theorem IsTerm.exists_out (h : IsTerm f.1 w taken rest) (hsplit : c :: cs = taken ++ rest)
    (htail : Rewrites entries (Text.isWordChar c) cs mid) :
    ∃ rest', c :: mid = taken ++ rest' ∧ rest'.head? = rest.head? := by
  obtain ⟨d, t, rfl, hd, ht, hends⟩ := h.exists_cons hf
  obtain ⟨rfl, rfl⟩ : c = d ∧ cs = t ++ rest := List.cons.inj hsplit
  rw [hd] at htail
  obtain ⟨rest', rfl, hrest⟩ := htail.exists_rest_of_apart id fun b hb e he =>
    ((hcompatible e he).term b (ht ▸ hb)).1
  rw [hends] at hrest
  exact ⟨rest', rfl, hrest.head?_eq⟩

/-- A term that comes out, and whose first character is kept, was there. -/
theorem IsTerm.exists_source (h : IsTerm f.1 w taken rest) (hsplit : c :: mid = taken ++ rest)
    (htail : Rewrites entries (Text.isWordChar c) cs mid) :
    ∃ source, c :: cs = taken ++ source ∧ source.length ≤ cs.length ∧
      Rewrites entries true source rest := by
  obtain ⟨d, t, rfl, hd, ht, hends⟩ := h.exists_cons hf
  obtain ⟨rfl, rfl⟩ : c = d ∧ mid = t ++ rest := List.cons.inj hsplit
  rw [hd] at htail
  obtain ⟨source, rfl, hsource⟩ := htail.exists_source_of_apart id fun b hb e he =>
    ((hcompatible e he).term b (ht ▸ hb)).2
  rw [hends] at hsource
  exact ⟨source, rfl, by simp, hsource⟩

/-- Terms replaced at once and then one more are all replaced at once. -/
theorem Rewrites.trans (hproper : ∀ e ∈ entries, IsProper e.1) (h : Rewrites entries w cs mid)
    (hw : w' = w ∨ cs.head?.any Text.isWordChar = false) (h' : Rewrites [f] w' mid out) :
    Rewrites (f :: entries) w cs out := by
  -- A term may take several characters, so the induction is on the length of the text.
  induction hn : cs.length using Nat.strong_induction_on generalizing cs w w' mid out with
  | _ n ih =>
  subst hn
  cases cs with
  | nil =>
      obtain rfl := h.eq_nil hproper
      obtain rfl := h'.eq_nil (by simpa using hf)
      exact .nil
  | cons c cs =>
      have hsame (hword : Text.isWordChar c = true) : w' = w :=
        hw.resolve_right (by simp [hword])
      rcases h.cases_cons with ⟨mid, rfl, htail, hnone⟩ |
        ⟨e, he, taken, rest, mid, hsplit, rfl, hterm, htail⟩
      · rcases h'.cases_cons with ⟨out, rfl, htail', hnone'⟩ |
          ⟨_, hf', taken, rest, out, hsplit, rfl, hterm, htail'⟩
        · refine .keep (List.forall_mem_cons.mpr ⟨fun taken rest hsplit hterm => ?_, hnone⟩)
            (ih cs.length (Nat.lt_succ_self _) htail (.inl rfl) htail' rfl)
          obtain ⟨rest', hsplit', hhead⟩ := hterm.exists_out hf hcompatible hsplit htail
          refine hnone' f List.mem_cons_self taken rest' hsplit' ⟨hterm.folded, ?_, ?_⟩
          · rw [hsame (hterm.isWordChar hf hsplit), hterm.before]
          · rw [hhead, hterm.behind]
        · obtain rfl := List.mem_singleton.mp hf'
          obtain ⟨source, hsplit', hlength, hsource⟩ :=
            hterm.exists_source hf hcompatible hsplit htail
          refine .replace List.mem_cons_self hsplit' ⟨hterm.folded, ?_, ?_⟩
            (ih source.length (Nat.lt_succ_of_le hlength) hsource (.inl rfl) htail' rfl)
          · rw [← hsame (hterm.isWordChar hf hsplit), hterm.before]
          · rw [← hsource.head?_eq, hterm.behind]
      · rw [hsame (hterm.isWordChar (hproper e he) hsplit), hterm.before] at h'
        obtain ⟨out, rfl, hout⟩ := h'.exists_rest_of_apart id fun b hb f' hf' => by
          rw [List.mem_singleton.mp hf']
          exact (hcompatible e he).replacement b hb
        exact .replace (List.mem_cons_of_mem f he) hsplit hterm
          (ih rest.length (hterm.length_lt (hproper e he) hsplit) htail (.inr hterm.behind) hout rfl)

end Trans

theorem Rewrites.congr {others : List (String × String)} (hsame : ∀ e, e ∈ entries ↔ e ∈ others)
    (h : Rewrites entries w cs out) : Rewrites others w cs out := by
  induction h with
  | nil => exact .nil
  | keep hnone _ ih => exact .keep (fun e he => hnone e ((hsame e).mpr he)) ih
  | replace he hsplit hterm _ ih => exact .replace ((hsame _).mp he) hsplit hterm ih

/-- Where a term begins with another one, the shorter ends inside a word of the longer. -/
def Unambiguous (entries : List (String × String)) : Prop :=
  ∀ e ∈ entries, ∀ f ∈ entries, e.1.toList <+: f.1.toList →
    e = f ∨ (f.1.toList.drop e.1.toList.length).head?.any Text.isWordChar = true

theorem IsTerm.eq_of_shorter {taken' rest' : List Char} (hentries : Unambiguous entries)
    (he : e ∈ entries) (hf : f ∈ entries) (h : IsTerm e.1 w taken rest)
    (h' : IsTerm f.1 w' taken' rest') (hsplit : taken ++ rest = taken' ++ rest')
    (hshorter : taken <+: taken') : e = f ∧ taken = taken' := by
  obtain ⟨u, rfl⟩ := hshorter
  have hrest : rest = u ++ rest' := by
    rw [List.append_assoc] at hsplit
    exact List.append_cancel_left hsplit
  have hfolded := h'.folded
  rw [List.map_append, h.folded] at hfolded
  rcases hentries e he f hf ⟨_, hfolded⟩ with rfl | hword
  · have hu : u.map foldCase = [] := List.append_cancel_left (hfolded.trans (List.append_nil _).symm)
    exact ⟨rfl, by simpa using hu⟩
  · rw [← hfolded, List.drop_left] at hword
    have hbehind := h.behind
    rw [hrest] at hbehind
    cases u with
    | nil => cases hword
    | cons c u => simp_all [isWordChar_foldCase]

theorem IsTerm.unique {taken' rest' : List Char} (hentries : Unambiguous entries)
    (he : e ∈ entries) (hf : f ∈ entries) (h : IsTerm e.1 w taken rest)
    (h' : IsTerm f.1 w' taken' rest') (hsplit : taken ++ rest = taken' ++ rest') :
    e = f ∧ taken = taken' := by
  rcases List.prefix_or_prefix_of_prefix (List.prefix_append taken rest) ⟨rest', hsplit.symm⟩ with
    hshorter | hshorter
  · exact h.eq_of_shorter hentries he hf h' hsplit hshorter
  · obtain ⟨rfl, rfl⟩ := h'.eq_of_shorter hentries hf he h hsplit.symm hshorter
    exact ⟨rfl, rfl⟩

/-- A text is rewritten in one way. -/
theorem Rewrites.unique {out' : List Char} (hentries : Unambiguous entries)
    (hproper : ∀ e ∈ entries, IsProper e.1) (h : Rewrites entries w cs out)
    (h' : Rewrites entries w cs out') : out = out' := by
  induction h generalizing out' with
  | nil => exact (h'.eq_nil hproper).symm
  | keep hnone _ ih =>
      rcases h'.cases_cons with ⟨_, rfl, htail, -⟩ | ⟨e, he, taken, rest, _, hsplit, rfl, hterm, -⟩
      · rw [ih htail]
      · exact absurd hterm (hnone e he taken rest hsplit)
  | @replace w e cs taken rest out he hsplit hterm _ ih =>
      cases h' with
      | nil =>
          obtain ⟨c, t, rfl, -⟩ := hterm.exists_cons (hproper e he)
          cases hsplit
      | keep hnone _ => exact absurd hterm (hnone e he taken rest hsplit)
      | replace hf hsplit' hterm' htail' =>
          obtain ⟨rfl, rfl⟩ := hterm.unique hentries he hf hterm' (hsplit.symm.trans hsplit')
          rw [hsplit] at hsplit'
          rw [ih (List.append_cancel_left hsplit' ▸ htail')]

section Fixed

variable (hproper : IsProper e.1) (hself : Compatible e e) (hne : e.2.toList ≠ [])
include hself hne

theorem Rewrites.tail_of_fixed (h : Rewrites [e] w (c :: cs) (c :: cs)) :
    Rewrites [e] (Text.isWordChar c) cs cs ∧
      ∀ taken rest, c :: cs = taken ++ rest → ¬ IsTerm e.1 w taken rest := by
  rcases h.cases_cons with ⟨out, hout, htail, hnone⟩ |
    ⟨e', he, taken, rest, out, hsplit, hout, hterm, -⟩
  · obtain rfl : cs = out := (List.cons.inj hout).2
    exact ⟨htail, hnone e List.mem_cons_self⟩
  · rw [List.mem_singleton.mp he] at hout hterm
    obtain ⟨d, ds, hd⟩ := List.exists_cons_of_ne_nil hne
    have hbegins := hself.replacement (e.2.toList.map foldCase) (by simp [hd, wordStarts])
    rw [← hterm.folded] at hbegins
    exact absurd hbegins (not_apart_of_append_eq (hsplit.symm.trans hout))

include hproper

/-- A text that stays as it is has no term. -/
theorem Rewrites.not_isTerm {before : List Char}
    (h : Rewrites [e] w (before ++ (taken ++ rest)) (before ++ (taken ++ rest))) :
    ¬ IsTerm e.1 (endsInWord w before) taken rest := by
  induction before generalizing w with
  | nil =>
      intro hterm
      obtain ⟨c, t, rfl, -⟩ := hterm.exists_cons hproper
      exact (h.tail_of_fixed hself hne).2 (c :: t) rest rfl hterm
  | cons c before ih => exact ih (h.tail_of_fixed hself hne).1

end Fixed

end EquationTutor.Teaching
