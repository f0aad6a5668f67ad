import EquationTutor.Pattern.Search

namespace EquationTutor

/-- The place between two pieces of a text. -/
def Cursor.after (before rest : List Char) : Cursor :=
  ⟨before.getLast?, rest, before.length⟩

namespace Pattern

/-- Whether the pattern can take `taken` between `before` and `rest`. -/
def Takes : Pattern → (before taken rest : List Char) → Prop
  | empty, _, taken, _ => taken = []
  | one accepts, _, taken, _ => ∃ c, taken = [c] ∧ accepts c = true
  | seq p q, before, taken, rest =>
    ∃ s t, taken = s ++ t ∧ p.Takes before s (t ++ rest) ∧ q.Takes (before ++ s) t rest
  | alt p q, before, taken, rest => p.Takes before taken rest ∨ q.Takes before taken rest
  | optional p, before, taken, rest => p.Takes before taken rest ∨ taken = []
  | repeated accepts least most _, _, taken, _ =>
    (∀ c ∈ taken, accepts c = true) ∧ least ≤ taken.length ∧ ∀ n ∈ most, taken.length ≤ n
  | group _ p, before, taken, rest => p.Takes before taken rest
  | boundary, before, taken, rest =>
    taken = [] ∧ before.getLast?.any Text.isWordChar ≠ rest.head?.any Text.isWordChar
  | start, before, taken, _ => taken = [] ∧ before = []

/-- Whether the pattern can take some piece of the text. -/
def Within (p : Pattern) (cs : List Char) : Prop :=
  ∃ before taken rest, cs = before ++ taken ++ rest ∧ p.Takes before taken rest

theorem after_append_cons (before : List Char) (x : Char) (taken rest : List Char) :
    Cursor.after (before ++ x :: taken) rest = Cursor.after (before ++ [x] ++ taken) rest := by
  simp

theorem mem_endsRepeated_iff {accepts : Char → Bool} {greedy : Bool} {least : Nat}
    {most : Option Nat} {before rest : List Char} {c : Cursor} :
    c ∈ endsRepeated accepts greedy least most before.getLast? rest before.length ↔
      ∃ taken left, rest = taken ++ left ∧ c = Cursor.after (before ++ taken) left ∧
        (repeated accepts least most greedy).Takes before taken left := by
  induction rest generalizing least most before with
  | nil =>
      simp only [endsRepeated, Takes]
      constructor
      · intro h
        split at h
        · rename_i hleast
          exact ⟨[], [], rfl, by simpa [Cursor.after] using h, by simp [hleast]⟩
        · simp at h
      · rintro ⟨taken, left, hrest, rfl, -, hleast, -⟩
        obtain ⟨rfl, rfl⟩ := List.append_eq_nil_iff.mp hrest.symm
        have hzero : least = 0 := by simpa using hleast
        simp [hzero, Cursor.after]
  | cons x rest ih =>
      have hstop : c ∈ (if least = 0 then [Cursor.mk before.getLast? (x :: rest) before.length]
          else []) ↔ least = 0 ∧ c = Cursor.after before (x :: rest) := by
        split
        · rename_i hleast
          simp only [List.mem_singleton, hleast, true_and]
          rfl
        · rename_i hleast
          simp [hleast]
      have hmore : c ∈ (if (accepts x && most != some 0) = true then
          endsRepeated accepts greedy (least - 1) (most.map (· - 1)) (some x) rest
            (before.length + 1) else []) ↔
          (accepts x = true ∧ most ≠ some 0) ∧ ∃ taken left, rest = taken ++ left ∧
            c = Cursor.after (before ++ x :: taken) left ∧
            (repeated accepts (least - 1) (most.map (· - 1)) greedy).Takes (before ++ [x])
              taken left := by
        have := @ih (least - 1) (most.map (· - 1)) (before ++ [x])
        simp only [List.getLast?_append, List.getLast?_singleton, Option.some_or,
          List.length_append, List.length_singleton, ← after_append_cons] at this
        split
        · simp_all
        · simp_all
      have hsplit : c ∈ endsRepeated accepts greedy least most before.getLast? (x :: rest)
          before.length ↔ (least = 0 ∧ c = Cursor.after before (x :: rest)) ∨
            (accepts x = true ∧ most ≠ some 0) ∧ ∃ taken left, rest = taken ++ left ∧
              c = Cursor.after (before ++ x :: taken) left ∧
              (repeated accepts (least - 1) (most.map (· - 1)) greedy).Takes (before ++ [x])
                taken left := by
        simp only [endsRepeated]
        split
        · rw [List.mem_append, hstop, hmore, or_comm]
        · rw [List.mem_append, hstop, hmore]
      rw [hsplit]
      constructor
      · rintro (⟨hleast, rfl⟩ | ⟨⟨hx, hmost⟩, taken, left, rfl, rfl, hall, hlength, hbound⟩)
        · exact ⟨[], x :: rest, rfl, by simp, by simp, by omega, by simp⟩
        · refine ⟨x :: taken, left, rfl, rfl, ?_, ?_, ?_⟩
          · simpa using ⟨hx, hall⟩
          · simp only [List.length_cons]
            omega
          · intro n hn
            obtain rfl : most = some n := hn
            have := hbound (n - 1) (by simp)
            have : n ≠ 0 := by
              rintro rfl
              exact hmost rfl
            simp only [List.length_cons]
            omega
      · rintro ⟨taken, left, hrest, rfl, hall, hlength, hbound⟩
        cases taken with
        | nil =>
            left
            simp only [List.nil_append] at hrest
            exact ⟨by simpa using hlength, by simp [hrest]⟩
        | cons y taken =>
            obtain ⟨rfl, rfl⟩ := List.cons.inj hrest
            right
            simp only [List.mem_cons, forall_eq_or_imp, List.length_cons] at hall hlength hbound
            refine ⟨⟨hall.1, ?_⟩, taken, left, rfl, rfl, hall.2, by omega, ?_⟩
            · rintro rfl
              have := hbound 0 rfl
              omega
            · intro n hn
              obtain ⟨m, rfl, rfl⟩ := Option.map_eq_some_iff.mp hn
              have := hbound m rfl
              omega

theorem takes_of_mem_ends {p : Pattern} {before rest : List Char} {g : Groups} {e : End}
    (h : e ∈ p.ends (Cursor.after before rest) g) :
    ∃ taken left, rest = taken ++ left ∧ e.cursor = Cursor.after (before ++ taken) left ∧
      p.Takes before taken left := by
  induction p generalizing before rest g e with
  | empty =>
      simp only [ends, List.mem_singleton] at h
      exact ⟨[], rest, rfl, by simp [h], rfl⟩
  | one accepts =>
      cases rest with
      | nil => simp [ends, Cursor.after] at h
      | cons x rest =>
          simp only [ends, Cursor.after] at h
          split at h
          · rename_i hx
            simp only [List.mem_singleton] at h
            exact ⟨[x], rest, rfl, by simp [h, Cursor.after, Cursor.advance], x, rfl, hx⟩
          · simp at h
  | seq p q ihp ihq =>
      simp only [ends, List.mem_flatMap] at h
      obtain ⟨e', hp, hq⟩ := h
      obtain ⟨s, left, rfl, hcursor, hs⟩ := ihp hp
      rw [hcursor] at hq
      obtain ⟨t, left', rfl, hcursor', ht⟩ := ihq hq
      exact ⟨s ++ t, left', by simp, by simp [hcursor'], s, t, rfl, hs, ht⟩
  | alt p q ihp ihq =>
      simp only [ends, List.mem_append] at h
      rcases h with h | h
      · obtain ⟨taken, left, hrest, hcursor, ht⟩ := ihp h
        exact ⟨taken, left, hrest, hcursor, Or.inl ht⟩
      · obtain ⟨taken, left, hrest, hcursor, ht⟩ := ihq h
        exact ⟨taken, left, hrest, hcursor, Or.inr ht⟩
  | optional p ih =>
      simp only [ends, List.mem_append, List.mem_singleton] at h
      rcases h with h | rfl
      · obtain ⟨taken, left, hrest, hcursor, ht⟩ := ih h
        exact ⟨taken, left, hrest, hcursor, Or.inl ht⟩
      · exact ⟨[], rest, rfl, by simp, Or.inr rfl⟩
  | repeated accepts least most greedy =>
      simp only [ends, List.mem_map] at h
      obtain ⟨c, hc, rfl⟩ := h
      exact mem_endsRepeated_iff.mp hc
  | group i p ih =>
      simp only [ends, List.mem_map] at h
      obtain ⟨e', he, rfl⟩ := h
      obtain ⟨taken, left, hrest, hcursor, ht⟩ := ih he
      exact ⟨taken, left, hrest, hcursor, ht⟩
  | boundary =>
      simp only [ends] at h
      split at h
      · rename_i hb
        simp only [List.mem_singleton] at h
        exact ⟨[], rest, rfl, by simp [h], rfl, by simpa [Cursor.atBoundary, Cursor.after] using hb⟩
      · simp at h
  | start =>
      simp only [ends] at h
      split at h
      · rename_i hb
        simp only [List.mem_singleton] at h
        exact ⟨[], rest, rfl, by simp [h], rfl, by simpa [Cursor.after] using hb⟩
      · simp at h

theorem exists_mem_ends_of_takes {p : Pattern} {before taken rest : List Char}
    (h : p.Takes before taken rest) (g : Groups) :
    ∃ g', ⟨Cursor.after (before ++ taken) rest, g'⟩ ∈
      p.ends (Cursor.after before (taken ++ rest)) g := by
  induction p generalizing before taken rest g with
  | empty =>
      obtain rfl : taken = [] := h
      exact ⟨g, by simp [ends]⟩
  | one accepts =>
      obtain ⟨c, rfl, hc⟩ := h
      exact ⟨g, by simp [ends, Cursor.after, Cursor.advance, hc]⟩
  | seq p q ihp ihq =>
      obtain ⟨s, t, rfl, hp, hq⟩ := h
      obtain ⟨g', hs⟩ := ihp hp g
      obtain ⟨g'', ht⟩ := ihq hq g'
      refine ⟨g'', ?_⟩
      simp only [ends, List.mem_flatMap, List.append_assoc]
      exact ⟨_, hs, by simpa using ht⟩
  | alt p q ihp ihq =>
      rcases h with h | h
      · obtain ⟨g', hg⟩ := ihp h g
        exact ⟨g', by simp [ends, hg]⟩
      · obtain ⟨g', hg⟩ := ihq h g
        exact ⟨g', by simp [ends, hg]⟩
  | optional p ih =>
      rcases h with h | rfl
      · obtain ⟨g', hg⟩ := ih h g
        exact ⟨g', by simp [ends, hg]⟩
      · exact ⟨g, by simp [ends]⟩
  | repeated accepts least most greedy =>
      refine ⟨g, ?_⟩
      simp only [ends, List.mem_map]
      exact ⟨_, mem_endsRepeated_iff.mpr ⟨taken, rest, rfl, rfl, h⟩, rfl⟩
  | group i p ih =>
      obtain ⟨g', hg⟩ := ih h g
      simp only [ends, List.mem_map]
      exact ⟨_, _, hg, rfl⟩
  | boundary =>
      obtain ⟨rfl, hb⟩ := h
      exact ⟨g, by simpa [ends, Cursor.atBoundary, Cursor.after] using hb⟩
  | start =>
      obtain ⟨rfl, rfl⟩ := h
      exact ⟨g, by simp [ends, Cursor.after]⟩

/-- Whether no class of the pattern has the character. -/
def avoids (d : Char) : Pattern → Bool
  | one accepts => !accepts d
  | seq p q => p.avoids d && q.avoids d
  | alt p q => p.avoids d && q.avoids d
  | optional p => p.avoids d
  | repeated accepts _ _ _ => !accepts d
  | group _ p => p.avoids d
  | _ => true

theorem notMem_of_takes {p : Pattern} {d : Char} (h : p.avoids d = true)
    {before taken rest : List Char} (ht : p.Takes before taken rest) : d ∉ taken := by
  induction p generalizing before taken rest with
  | one accepts =>
      obtain ⟨c, rfl, hc⟩ := ht
      rintro hmem
      obtain rfl := List.mem_singleton.mp hmem
      simp [avoids, hc] at h
  | seq p q ihp ihq =>
      obtain ⟨s, t, rfl, hs, ht⟩ := ht
      simp only [avoids, Bool.and_eq_true] at h
      rw [List.mem_append, not_or]
      exact ⟨ihp h.1 hs, ihq h.2 ht⟩
  | alt p q ihp ihq =>
      simp only [avoids, Bool.and_eq_true] at h
      rcases ht with ht | ht
      · exact ihp h.1 ht
      · exact ihq h.2 ht
  | optional p ih =>
      rcases ht with ht | rfl
      · exact ih h ht
      · exact List.not_mem_nil
  | repeated accepts least most greedy =>
      intro hmem
      simp [avoids, ht.1 d hmem] at h
  | group i p ih => exact ih h ht
  | empty =>
      obtain rfl : taken = [] := ht
      exact List.not_mem_nil
  | boundary | start =>
      obtain ⟨rfl, -⟩ := ht
      exact List.not_mem_nil

theorem isSome_matchAt_iff {p : Pattern} {before rest : List Char} :
    (p.matchAt (Cursor.after before rest)).isSome = true ↔
      ∃ taken left, rest = taken ++ left ∧ p.Takes before taken left := by
  have hends : (p.matchAt (Cursor.after before rest)).isSome = true ↔
      ∃ e, e ∈ p.ends (Cursor.after before rest) [] := by
    rw [matchAt, run_eq_findSome?, List.isSome_findSome?]
    simp
  rw [hends]
  constructor
  · rintro ⟨e, he⟩
    obtain ⟨taken, left, hrest, -, ht⟩ := takes_of_mem_ends he
    exact ⟨taken, left, hrest, ht⟩
  · rintro ⟨taken, left, rfl, ht⟩
    obtain ⟨g, hg⟩ := exists_mem_ends_of_takes ht []
    exact ⟨_, hg⟩

theorem isSome_searchFrom_iff {p : Pattern} {before rest : List Char} :
    (p.searchFrom before.getLast? rest before.length).isSome = true ↔
      ∃ s taken left, rest = s ++ taken ++ left ∧ p.Takes (before ++ s) taken left := by
  induction rest generalizing before with
  | nil =>
      rw [searchFrom_nil]
      change (p.matchAt (Cursor.after before [])).isSome = true ↔ _
      rw [isSome_matchAt_iff]
      constructor
      · rintro ⟨taken, left, hrest, ht⟩
        exact ⟨[], taken, left, hrest, by simpa using ht⟩
      · rintro ⟨s, taken, left, hrest, ht⟩
        obtain ⟨hs, rfl⟩ := List.append_eq_nil_iff.mp hrest.symm
        obtain ⟨rfl, rfl⟩ := List.append_eq_nil_iff.mp hs
        exact ⟨[], [], rfl, by simpa using ht⟩
  | cons x rest ih =>
      have hrest := @ih (before ++ [x])
      simp only [List.getLast?_append, List.getLast?_singleton, Option.some_or,
        List.length_append, List.length_singleton] at hrest
      rw [searchFrom_cons, ← Option.or_eq_orElse, Option.isSome_or, Bool.or_eq_true, hrest]
      change (p.matchAt (Cursor.after before (x :: rest))).isSome = true ∨ _ ↔ _
      rw [isSome_matchAt_iff]
      constructor
      · rintro (⟨taken, left, heq, ht⟩ | ⟨s, taken, left, rfl, ht⟩)
        · exact ⟨[], taken, left, heq, by simpa using ht⟩
        · exact ⟨x :: s, taken, left, rfl, by simpa using ht⟩
      · rintro ⟨s, taken, left, heq, ht⟩
        cases s with
        | nil => exact Or.inl ⟨taken, left, heq, by simpa using ht⟩
        | cons y s =>
            obtain ⟨rfl, rfl⟩ := List.cons.inj heq
            exact Or.inr ⟨s, taken, left, rfl, by simpa using ht⟩

/-- A pattern is found in a text if and only if it can take a piece of it. -/
theorem occursIn_iff {p : Pattern} {s : String} : p.occursIn s = true ↔ p.Within s.toList := by
  have := @isSome_searchFrom_iff p [] s.toList
  simpa [occursIn, find?, search, Cursor.ofString, Within] using this

end Pattern

end EquationTutor
