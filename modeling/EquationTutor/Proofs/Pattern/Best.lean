import EquationTutor.Proofs.Pattern.Takes

namespace EquationTutor.Pattern

/-- The first way to match between two pieces of a text takes `taken` and turns the groups
`g` into `g'`. -/
def Best (p : Pattern) (before taken rest : List Char) (g g' : Groups) : Prop :=
  (p.ends (Cursor.after before (taken ++ rest)) g).head? =
    some ⟨Cursor.after (before ++ taken) rest, g'⟩

/-- No piece of the text from a place on can be taken. -/
def Refuses (p : Pattern) (before rest : List Char) : Prop :=
  ∀ s t, rest = s ++ t → ¬ p.Takes before s t

variable {p q : Pattern} {before taken rest : List Char} {g g' : Groups}

theorem ends_of_refuses (h : p.Refuses before rest) (g : Groups) :
    p.ends (Cursor.after before rest) g = [] := by
  rw [List.eq_nil_iff_forall_not_mem]
  intro e he
  obtain ⟨s, t, hrest, -, ht⟩ := takes_of_mem_ends he
  exact h s t hrest ht

theorem best_seq {s t : List Char} {g'' : Groups} (hp : p.Best before s (t ++ rest) g g')
    (hq : q.Best (before ++ s) t rest g' g'') : (seq p q).Best before (s ++ t) rest g g'' := by
  rw [Best] at hp hq ⊢
  obtain ⟨es, hes⟩ := List.head?_eq_some_iff.mp hp
  obtain ⟨fs, hfs⟩ := List.head?_eq_some_iff.mp hq
  rw [ends, List.append_assoc, hes, List.flatMap_cons, hfs]
  simp

theorem best_seq_assoc {r : Pattern} (h : (seq (seq p q) r).Best before taken rest g g') :
    (seq p (seq q r)).Best before taken rest g g' := by
  rw [Best, ends, ends, List.flatMap_assoc] at h
  exact h

theorem best_one {accepts : Char → Bool} {c : Char} (h : accepts c = true) :
    (one accepts).Best before [c] rest g g := by
  simp [Best, ends, Cursor.after, Cursor.advance, h]

theorem best_char {c : Char} : (char c).Best before [c] rest g g :=
  best_one (by simp)

theorem best_alt_left (h : p.Best before taken rest g g') :
    (alt p q).Best before taken rest g g' := by
  obtain ⟨es, hes⟩ := List.head?_eq_some_iff.mp h
  rw [Best, ends, hes]
  rfl

theorem best_alt_right (hp : p.Refuses before (taken ++ rest))
    (hq : q.Best before taken rest g g') : (alt p q).Best before taken rest g g' := by
  rw [Best, ends, ends_of_refuses hp]
  exact hq

theorem best_optional (h : p.Best before taken rest g g') :
    (optional p).Best before taken rest g g' := by
  obtain ⟨es, hes⟩ := List.head?_eq_some_iff.mp h
  rw [Best, ends, hes]
  rfl

theorem best_optional_of_refuses (h : p.Refuses before rest) :
    (optional p).Best before [] rest g g := by
  rw [Best, ends, List.nil_append, ends_of_refuses h]
  simp

theorem best_group {i : Nat} (h : p.Best before taken rest g g') :
    (group i p).Best before taken rest g (g' ++ [(i, ⟨before.length, taken⟩)]) := by
  obtain ⟨es, hes⟩ := List.head?_eq_some_iff.mp h
  rw [Best, ends, hes]
  simp [Capture.between, Cursor.after]

theorem best_boundary
    (h : before.getLast?.any Text.isWordChar ≠ rest.head?.any Text.isWordChar) :
    boundary.Best before [] rest g g := by
  simp [Best, ends, Cursor.atBoundary, Cursor.after, h]

theorem head?_endsRepeated {accepts : Char → Bool} {least : Nat}
    (htaken : ∀ c ∈ taken, accepts c = true) (hrest : ∀ c ∈ rest.head?, accepts c = false)
    (hleast : least ≤ taken.length) :
    (endsRepeated accepts true least none before.getLast? (taken ++ rest)
      before.length).head? = some (Cursor.after (before ++ taken) rest) := by
  induction taken generalizing before least with
  | nil =>
      obtain rfl : least = 0 := by simpa using hleast
      cases rest with
      | nil => simp [endsRepeated, Cursor.after]
      | cons c rest => simp [endsRepeated, Cursor.after, hrest c rfl]
  | cons c taken ih =>
      have hc : accepts c = true := htaken c List.mem_cons_self
      have htail := @ih (before ++ [c]) (least - 1)
        (fun x hx => htaken x (List.mem_cons_of_mem c hx)) (by
          simp only [List.length_cons] at hleast
          omega)
      simp only [List.getLast?_append, List.getLast?_singleton, Option.some_or,
        List.length_append, List.length_singleton, ← after_append_cons] at htail
      simp only [List.cons_append, endsRepeated, hc, Option.map_none, if_true, Bool.true_and]
      rw [if_pos (by simp), List.head?_append, htail]
      rfl

/-- A repetition goes on to the first character that is not in its class. -/
theorem best_repeated {accepts : Char → Bool} {least : Nat}
    (htaken : ∀ c ∈ taken, accepts c = true) (hrest : ∀ c ∈ rest.head?, accepts c = false)
    (hleast : least ≤ taken.length) :
    (repeated accepts least none true).Best before taken rest g g := by
  rw [Best, ends, List.head?_map]
  have := @head?_endsRepeated before taken rest accepts least htaken hrest hleast
  simp only [Cursor.after] at this ⊢
  rw [this]
  rfl

theorem matchAt_of_best (h : p.Best before taken rest [] g) :
    p.matchAt (Cursor.after before (taken ++ rest)) =
      some ⟨Cursor.after before (taken ++ rest), Cursor.after (before ++ taken) rest, g⟩ := by
  obtain ⟨es, hes⟩ := List.head?_eq_some_iff.mp h
  rw [matchAt, run_eq_findSome?, hes]
  rfl

theorem searchFrom_eq_some {b : List Char} {m : Match} {before rest : List Char}
    (hat : p.matchAt (Cursor.after (b ++ before) rest) = some m)
    (hnone : ∀ s t, before = s ++ t → t ≠ [] → p.Refuses (b ++ s) (t ++ rest)) :
    p.searchFrom b.getLast? (before ++ rest) b.length = some m := by
  induction before generalizing b with
  | nil =>
      cases rest with
      | nil => simpa [searchFrom_nil, Cursor.after] using hat
      | cons x rest =>
          have hat : p.matchAt ⟨b.getLast?, x :: rest, b.length⟩ = some m := by
            simpa [Cursor.after] using hat
          rw [List.nil_append, searchFrom_cons, hat]
          rfl
  | cons x before ih =>
      have hfirst : p.matchAt ⟨b.getLast?, x :: (before ++ rest), b.length⟩ = none := by
        have hrefuses := hnone [] (x :: before) rfl (by simp)
        rw [List.append_nil] at hrefuses
        have hends := ends_of_refuses hrefuses []
        change p.ends ⟨b.getLast?, x :: (before ++ rest), b.length⟩ [] = [] at hends
        rw [matchAt, run_eq_findSome?, hends]
        rfl
      have hrest := @ih (b ++ [x]) (by simpa using hat) (by
        intro s t hst ht
        have := hnone (x :: s) t (by rw [hst]; rfl) ht
        simpa using this)
      simp only [List.getLast?_append, List.getLast?_singleton, Option.some_or,
        List.length_append, List.length_singleton] at hrest
      rw [List.cons_append, searchFrom_cons, hfirst, hrest]
      rfl

/-- A search finds the best match at the first place that is not refused. -/
theorem find?_eq_some {s : String} (hs : s.toList = before ++ (taken ++ rest))
    (hbest : p.Best before taken rest [] g)
    (hnone : ∀ a b, before = a ++ b → b ≠ [] → p.Refuses a (b ++ (taken ++ rest))) :
    p.find? s = some ⟨Cursor.after before (taken ++ rest), Cursor.after (before ++ taken) rest,
      g⟩ := by
  have := searchFrom_eq_some (b := []) (matchAt_of_best hbest) hnone
  simpa [find?, search, Cursor.ofString, hs] using this

theorem find?_eq_some_of_start {s : String} (hs : s.toList = taken ++ rest)
    (hbest : p.Best [] taken rest [] g) :
    p.find? s = some ⟨Cursor.after [] (taken ++ rest), Cursor.after taken rest, g⟩ :=
  find?_eq_some hs hbest fun _ _ hsplit hne =>
    absurd (List.append_eq_nil_iff.mp hsplit.symm).2 hne

theorem allFrom_eq_cons {b : List Char} (hbest : p.Best (b ++ before) taken rest [] g)
    (htaken : taken ≠ [])
    (hnone : ∀ s t, before = s ++ t → t ≠ [] → p.Refuses (b ++ s) (t ++ (taken ++ rest))) :
    p.allFrom (Cursor.after b (before ++ (taken ++ rest))) =
      ⟨Cursor.after (b ++ before) (taken ++ rest), Cursor.after (b ++ before ++ taken) rest, g⟩ ::
        p.allFrom (Cursor.after (b ++ before ++ taken) rest) := by
  have hsearch : p.search (Cursor.after b (before ++ (taken ++ rest))) = some ⟨_, _, g⟩ :=
    searchFrom_eq_some (matchAt_of_best hbest) hnone
  have hlength : rest.length < (before ++ (taken ++ rest)).length := by
    have := List.length_pos_iff.mpr htaken
    simp only [List.length_append]
    omega
  rw [allFrom, hsearch]
  exact if_pos hlength

theorem find?_eq_none {s : String} (h : ¬ p.Within s.toList) : p.find? s = none := by
  rw [← occursIn_iff] at h
  simpa [occursIn] using h

end EquationTutor.Pattern
