import EquationTutor.Proofs.Pattern.Best
import EquationTutor.Proofs.Reading.Pieces

namespace EquationTutor.Pattern

/-- The first way to match that does not take all of `s ++ t` takes `s`; all ways before it
take `s ++ t`. -/
def GivesBack (p : Pattern) (before s t rest : List Char) (g g' : Groups) : Prop :=
  ∃ whole others, p.ends (Cursor.after before (s ++ (t ++ rest))) g =
      whole ++ ⟨Cursor.after (before ++ s) (t ++ rest), g'⟩ :: others ∧
    ∀ e ∈ whole, e.cursor = Cursor.after (before ++ (s ++ t)) rest

variable {p q : Pattern} {before s t rest : List Char} {g g' g'' : Groups}

theorem best_seq_of_givesBack {u left : List Char} (hp : p.GivesBack before s t rest g g')
    (hrefuses : q.Refuses (before ++ (s ++ t)) rest)
    (hq : q.Best (before ++ s) u left g' g'') (hsplit : t ++ rest = u ++ left) :
    (seq p q).Best before (s ++ u) left g g'' := by
  obtain ⟨whole, others, hends, hwhole⟩ := hp
  have hnone : whole.flatMap (fun e => q.ends e.cursor e.groups) = [] := by
    rw [List.flatMap_eq_nil_iff]
    intro e he
    rw [hwhole e he]
    exact ends_of_refuses hrefuses e.groups
  rw [Best] at hq ⊢
  rw [ends, List.append_assoc, ← hsplit, hends, List.flatMap_append, hnone, List.nil_append,
    List.flatMap_cons, hsplit]
  obtain ⟨es, hes⟩ := List.head?_eq_some_iff.mp hq
  rw [hes]
  simp

theorem givesBack_seq_of_best {u : List Char} (hp : p.Best before u (s ++ (t ++ rest)) g g')
    (hq : q.GivesBack (before ++ u) s t rest g' g'') :
    (seq p q).GivesBack before (u ++ s) t rest g g'' := by
  obtain ⟨whole, others, hends, hwhole⟩ := hq
  obtain ⟨es, hes⟩ := List.head?_eq_some_iff.mp hp
  refine ⟨whole, others ++ es.flatMap fun e => q.ends e.cursor e.groups, ?_, ?_⟩
  · rw [ends, List.append_assoc, hes, List.flatMap_cons, hends]
    simp
  · simpa using hwhole

theorem givesBack_seq_of_empty (hp : p.GivesBack before s t rest g g')
    (hwhole : ∀ u left, rest = u ++ left → q.Takes (before ++ (s ++ t)) u left → u = [])
    (hq : q.Best (before ++ s) [] (t ++ rest) g' g'') :
    (seq p q).GivesBack before s t rest g g'' := by
  obtain ⟨whole, others, hends, hcursor⟩ := hp
  obtain ⟨es, hes⟩ := List.head?_eq_some_iff.mp hq
  refine ⟨whole.flatMap fun e => q.ends e.cursor e.groups,
    es ++ others.flatMap fun e => q.ends e.cursor e.groups, ?_, ?_⟩
  · rw [ends, hends, List.flatMap_append, List.flatMap_cons]
    rw [List.nil_append] at hes
    simp [hes]
  · intro e he
    obtain ⟨e', he', hmem⟩ := List.mem_flatMap.mp he
    rw [hcursor e' he'] at hmem
    obtain ⟨u, left, hsplit, heq, htakes⟩ := takes_of_mem_ends hmem
    obtain rfl := hwhole u left hsplit htakes
    rw [heq, List.append_nil, hsplit, List.nil_append]

theorem givesBack_alt_left (h : p.GivesBack before s t rest g g') :
    (alt p q).GivesBack before s t rest g g' := by
  obtain ⟨whole, others, hends, hwhole⟩ := h
  exact ⟨whole, others ++ q.ends (Cursor.after before (s ++ (t ++ rest))) g, by simp [ends, hends],
    hwhole⟩

theorem givesBack_alt_right (hp : p.Refuses before (s ++ (t ++ rest)))
    (hq : q.GivesBack before s t rest g g') : (alt p q).GivesBack before s t rest g g' := by
  obtain ⟨whole, others, hends, hwhole⟩ := hq
  exact ⟨whole, others, by simp [ends, ends_of_refuses hp, hends], hwhole⟩

theorem givesBack_optional (h : p.GivesBack before s t rest g g') :
    (optional p).GivesBack before s t rest g g' := by
  obtain ⟨whole, others, hends, hwhole⟩ := h
  exact ⟨whole, others ++ [⟨Cursor.after before (s ++ (t ++ rest)), g⟩], by simp [ends, hends],
    hwhole⟩

/-- What can be taken in one way only is given back as a whole. -/
theorem givesBack_optional_of_unique
    (h : ∀ u left, t ++ rest = u ++ left → p.Takes before u left → u = t) :
    (optional p).GivesBack before [] t rest g g := by
  refine ⟨p.ends (Cursor.after before (t ++ rest)) g, [], by simp [ends], ?_⟩
  intro e he
  obtain ⟨u, left, hsplit, heq, htakes⟩ := takes_of_mem_ends he
  obtain rfl := h u left hsplit htakes
  rw [heq, List.nil_append, List.append_cancel_left hsplit]

theorem givesBack_group {i : Nat} (h : p.GivesBack before s t rest g g') :
    (group i p).GivesBack before s t rest g (g' ++ [(i, ⟨before.length, s⟩)]) := by
  obtain ⟨whole, others, hends, hwhole⟩ := h
  let keep : End → End := fun e => ⟨e.cursor,
    e.groups ++ [(i, Capture.between (Cursor.after before (s ++ (t ++ rest))) e.cursor)]⟩
  refine ⟨whole.map keep, others.map keep, ?_, ?_⟩
  · rw [ends, hends, List.map_append, List.map_cons]
    simp [keep, Capture.between, Cursor.after]
  · intro e he
    obtain ⟨e', he', rfl⟩ := List.mem_map.mp he
    exact hwhole e' he'

section Repeated

variable {accepts : Char → Bool} {least : Nat} {c : Char} (hs : ∀ d ∈ s, accepts d = true)
  (hc : accepts c = true) (hrest : ∀ d ∈ rest.head?, accepts d = false) (hleast : least ≤ s.length)
include hs hc hrest hleast

theorem exists_endsRepeated_eq : ∃ others,
    endsRepeated accepts true least none before.getLast? (s ++ c :: rest) before.length =
      Cursor.after (before ++ (s ++ [c])) rest :: Cursor.after (before ++ s) (c :: rest) ::
        others := by
  induction s generalizing before least with
  | nil =>
      obtain rfl : least = 0 := by simpa using hleast
      have hstop : endsRepeated accepts true 0 none (some c) rest (before.length + 1) =
          [Cursor.after (before ++ [c]) rest] := by
        cases rest with
        | nil => simp [endsRepeated, Cursor.after]
        | cons d rest => simp [endsRepeated, Cursor.after, hrest d rfl]
      exact ⟨[], by simp [endsRepeated, hc, hstop, Cursor.after]⟩
  | cons d s ih =>
      obtain ⟨others, htail⟩ := @ih (before ++ [d]) (least - 1)
        (fun x hx => hs x (List.mem_cons_of_mem d hx)) (by
          simp only [List.length_cons] at hleast
          omega)
      simp only [List.getLast?_append, List.getLast?_singleton, Option.some_or,
        List.length_append, List.length_singleton, ← after_append_cons] at htail
      refine ⟨others ++ if least = 0 then [⟨before.getLast?, d :: (s ++ c :: rest),
        before.length⟩] else [], ?_⟩
      simp [endsRepeated, hs d List.mem_cons_self, htail]

/-- A repetition gives back its last character first. -/
theorem givesBack_repeated :
    (repeated accepts least none true).GivesBack before s [c] rest g g := by
  obtain ⟨others, hothers⟩ :=
    @exists_endsRepeated_eq before s rest accepts least c hs hc hrest hleast
  refine ⟨[⟨Cursor.after (before ++ (s ++ [c])) rest, g⟩], others.map fun c => ⟨c, g⟩, ?_, by simp⟩
  rw [ends]
  simp only [Cursor.after] at hothers ⊢
  rw [List.singleton_append, hothers]
  rfl

end Repeated

end EquationTutor.Pattern
