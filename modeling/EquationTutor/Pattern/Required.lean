import EquationTutor.Pattern.Match
/-!
Characters that a match cannot do without. Every match takes characters of the
classes `Pattern.needs`, in their order (`exists_inOrder_of_mem_ends`), so there
is none where they do not follow (`ends_eq_nil`).
-/

namespace EquationTutor

/-- Whether the characters have one of each class, in the order of the classes. -/
def inOrder : List (Char → Bool) → List Char → Bool
  | [], _ => true
  | _ :: _, [] => false
  | accepts :: more, x :: rest =>
    if accepts x then inOrder more rest else inOrder (accepts :: more) rest

@[simp] theorem inOrder_nil (cs : List Char) : inOrder [] cs = true := by
  simp [inOrder]

theorem inOrder_of_inOrder_cons {needs : List (Char → Bool)} {accepts : Char → Bool}
    {cs : List Char} (h : inOrder (accepts :: needs) cs = true) : inOrder needs cs = true := by
  induction cs generalizing needs accepts with
  | nil => simp [inOrder] at h
  | cons x rest ih =>
    cases needs with
    | nil => simp
    | cons b needs =>
      simp only [inOrder] at h ⊢
      split at h
      · split
        · exact ih h
        · exact h
      · split
        · exact ih (ih h)
        · exact ih h

theorem inOrder_cons {needs : List (Char → Bool)} {cs : List Char}
    (h : inOrder needs cs = true) (x : Char) : inOrder needs (x :: cs) = true := by
  cases needs with
  | nil => simp
  | cons accepts needs =>
    simp only [inOrder]
    split
    · exact inOrder_of_inOrder_cons h
    · exact h

theorem inOrder_append {needs : List (Char → Bool)} {cs : List Char}
    (h : inOrder needs cs = true) (before : List Char) : inOrder needs (before ++ cs) = true := by
  induction before with
  | nil => exact h
  | cons x before ih => exact inOrder_cons ih x

theorem inOrder_append_append {needs more : List (Char → Bool)} {cs rest : List Char}
    (h : inOrder needs cs = true) (hmore : inOrder more rest = true) :
    inOrder (needs ++ more) (cs ++ rest) = true := by
  induction cs generalizing needs with
  | nil =>
    cases needs with
    | nil => exact hmore
    | cons accepts needs => simp [inOrder] at h
  | cons x cs ih =>
    cases needs with
    | nil => exact inOrder_append hmore (x :: cs)
    | cons accepts needs =>
      simp only [List.cons_append, inOrder] at h ⊢
      split at h <;> rename_i hx
      · rw [if_pos hx]
        exact ih h
      · rw [if_neg hx]
        exact ih h

def eitherClass (first second : Char → Bool) (x : Char) : Bool :=
  first x || second x

theorem inOrder_zipWith {combine : (Char → Bool) → (Char → Bool) → Char → Bool}
    (hcombine : ∀ a b x, a x = true → combine a b x = true)
    {needs : List (Char → Bool)} {cs : List Char} (h : inOrder needs cs = true)
    (more : List (Char → Bool)) : inOrder (List.zipWith combine needs more) cs = true := by
  induction cs generalizing needs more with
  | nil =>
    cases needs with
    | nil => rfl
    | cons a needs => simp [inOrder] at h
  | cons x cs ih =>
    cases needs with
    | nil => rfl
    | cons a needs =>
      cases more with
      | nil => rfl
      | cons b more =>
        simp only [List.zipWith_cons_cons, inOrder] at h ⊢
        split at h <;> rename_i hx
        · rw [if_pos (hcombine a b x hx)]
          exact ih h more
        · have := ih h (b :: more)
          simp only [List.zipWith_cons_cons] at this
          split
          · exact inOrder_of_inOrder_cons this
          · exact this

theorem inOrder_either_left {needs : List (Char → Bool)} {cs : List Char}
    (h : inOrder needs cs = true) (more : List (Char → Bool)) :
    inOrder (List.zipWith eitherClass needs more) cs = true :=
  inOrder_zipWith (fun a b x hx => by simp [eitherClass, hx]) h more

theorem inOrder_either_right {more : List (Char → Bool)} {cs : List Char}
    (h : inOrder more cs = true) (needs : List (Char → Bool)) :
    inOrder (List.zipWith eitherClass needs more) cs = true := by
  rw [List.zipWith_comm]
  exact inOrder_zipWith (fun a b x hx => by simp [eitherClass, hx]) h needs

namespace Pattern

/-- Classes of which every match takes a character each, in this order. -/
def needs : Pattern → List (Char → Bool)
  | one accepts => [accepts]
  | seq p q => p.needs ++ q.needs
  | alt p q => List.zipWith eitherClass p.needs q.needs
  | group _ p => p.needs
  | repeated accepts (_ + 1) _ _ => [accepts]
  | _ => []

theorem exists_inOrder_of_mem_endsRepeated {accepts : Char → Bool} {greedy : Bool} {least : Nat}
    {most : Option Nat} {before : Option Char} {rest : List Char} {offset : Nat} {c : Cursor}
    (h : c ∈ endsRepeated accepts greedy least most before rest offset) :
    ∃ taken, rest = taken ++ c.rest ∧
      inOrder (repeated accepts least most greedy).needs taken = true := by
  induction rest generalizing least most before offset with
  | nil =>
    cases least with
    | zero =>
      simp only [endsRepeated, if_true, List.mem_singleton] at h
      subst h
      exact ⟨[], rfl, rfl⟩
    | succ least => simp [endsRepeated] at h
  | cons x rest ih =>
    have hstop (hs : c ∈ if least = 0 then [Cursor.mk before (x :: rest) offset] else []) :
        ∃ taken, x :: rest = taken ++ c.rest ∧
          inOrder (repeated accepts least most greedy).needs taken = true := by
      split at hs
      · rename_i hl
        subst hl
        simp only [List.mem_singleton] at hs
        subst hs
        exact ⟨[], rfl, rfl⟩
      · simp at hs
    have hmore (hm : c ∈ if (accepts x && most != some 0) = true then
          endsRepeated accepts greedy (least - 1) (most.map (· - 1)) (some x) rest (offset + 1)
        else []) :
        ∃ taken, x :: rest = taken ++ c.rest ∧
          inOrder (repeated accepts least most greedy).needs taken = true := by
      split at hm
      · rename_i hx
        obtain ⟨taken, hrest, -⟩ := ih hm
        refine ⟨x :: taken, by rw [hrest, List.cons_append], ?_⟩
        cases least with
        | zero => rfl
        | succ least =>
          have hx : accepts x = true := by simp_all
          simp [needs, inOrder, hx]
      · simp at hm
    simp only [endsRepeated] at h
    split at h
    · exact (List.mem_append.1 h).elim hmore hstop
    · exact (List.mem_append.1 h).elim hstop hmore

/-- A match takes what it needs from the text. -/
theorem exists_inOrder_of_mem_ends {p : Pattern} {c : Cursor} {g : Groups} {e : End}
    (h : e ∈ p.ends c g) :
    ∃ taken, c.rest = taken ++ e.cursor.rest ∧ inOrder p.needs taken = true := by
  induction p generalizing c g e with
  | empty =>
    simp only [ends, List.mem_singleton] at h
    exact ⟨[], by simp [h], rfl⟩
  | one accepts =>
    simp only [ends] at h
    split at h
    · simp at h
    · rename_i x rest hrest
      split at h
      · rename_i hx
        simp only [List.mem_singleton] at h
        exact ⟨[x], by simp [h, hrest, Cursor.advance], by simp [needs, inOrder, hx]⟩
      · simp at h
  | seq p q ihp ihq =>
    simp only [ends, List.mem_flatMap] at h
    obtain ⟨e', hp, hq⟩ := h
    obtain ⟨s, hs, hns⟩ := ihp hp
    obtain ⟨t, ht, hnt⟩ := ihq hq
    exact ⟨s ++ t, by rw [hs, ht, List.append_assoc], inOrder_append_append hns hnt⟩
  | alt p q ihp ihq =>
    simp only [ends, List.mem_append] at h
    rcases h with h | h
    · obtain ⟨s, hs, hns⟩ := ihp h
      exact ⟨s, hs, inOrder_either_left hns q.needs⟩
    · obtain ⟨s, hs, hns⟩ := ihq h
      exact ⟨s, hs, inOrder_either_right hns p.needs⟩
  | optional p ih =>
    simp only [ends, List.mem_append, List.mem_singleton] at h
    rcases h with h | h
    · obtain ⟨s, hs, -⟩ := ih h
      exact ⟨s, hs, inOrder_nil s⟩
    · exact ⟨[], by simp [h], rfl⟩
  | repeated accepts least most greedy =>
    simp only [ends, List.mem_map] at h
    obtain ⟨c', hc', rfl⟩ := h
    exact exists_inOrder_of_mem_endsRepeated hc'
  | group i p ih =>
    simp only [ends, List.mem_map] at h
    obtain ⟨e', he', rfl⟩ := h
    obtain ⟨s, hs, hns⟩ := ih he'
    exact ⟨s, hs, hns⟩
  | boundary =>
    simp only [ends] at h
    split at h <;> simp at h
    exact ⟨[], by simp [h], rfl⟩
  | start =>
    simp only [ends] at h
    split at h <;> simp at h
    exact ⟨[], by simp [h], rfl⟩

theorem ends_eq_nil {p : Pattern} {c : Cursor} (h : inOrder p.needs c.rest = false) (g : Groups) :
    p.ends c g = [] := by
  refine List.eq_nil_iff_forall_not_mem.2 fun e he => ?_
  obtain ⟨taken, hrest, hneeds⟩ := exists_inOrder_of_mem_ends he
  have := inOrder_append_append hneeds (inOrder_nil e.cursor.rest)
  rw [List.append_nil, ← hrest, h] at this
  exact Bool.false_ne_true this

end Pattern

end EquationTutor
