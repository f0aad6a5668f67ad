import EquationTutor.Proofs.Pattern.Best
import Mathlib.Tactic.Push

namespace EquationTutor.Pattern

variable {p : Pattern} {b before cs taken rest : List Char} {g : Groups}

theorem takes_of_best {g' : Groups} (h : p.Best before taken rest g g') :
    p.Takes before taken rest := by
  obtain ⟨taken', left, hsplit, hcursor, htakes⟩ := takes_of_mem_ends (List.mem_of_head? h)
  obtain rfl : rest = left := congrArg Cursor.rest hcursor
  obtain rfl := List.append_cancel_right hsplit
  exact htakes

theorem exists_best_of_not_refuses (h : ¬ p.Refuses before cs) :
    ∃ taken rest g, cs = taken ++ rest ∧ p.Best before taken rest [] g := by
  rw [Refuses] at h
  push Not at h
  obtain ⟨s, t, rfl, htakes⟩ := h
  obtain ⟨g, hmem⟩ := exists_mem_ends_of_takes htakes []
  obtain ⟨e, es, hes⟩ := List.exists_cons_of_ne_nil (List.ne_nil_of_mem hmem)
  obtain ⟨taken, rest, hsplit, hcursor, -⟩ :=
    takes_of_mem_ends (e := e) (by rw [hes]; exact List.mem_cons_self)
  refine ⟨taken, rest, e.groups, hsplit, ?_⟩
  rw [Best, ← hsplit, hes, List.head?_cons, ← hcursor]

theorem matchAt_eq_none_iff : p.matchAt (Cursor.after before cs) = none ↔ p.Refuses before cs := by
  rw [← Option.not_isSome_iff_eq_none, isSome_matchAt_iff, Refuses]
  simp only [not_exists, not_and]

theorem search_eq_none_iff : p.search (Cursor.after b cs) = none ↔
    ∀ s t, cs = s ++ t → p.Refuses (b ++ s) t := by
  have hsome := @isSome_searchFrom_iff p b cs
  rw [← Option.not_isSome_iff_eq_none]
  change ¬ (p.searchFrom b.getLast? cs b.length).isSome = true ↔ _
  rw [hsome]
  constructor
  · rintro h s t rfl taken rest rfl htakes
    exact h ⟨s, taken, rest, by simp, htakes⟩
  · rintro h ⟨s, taken, rest, rfl, htakes⟩
    exact h s (taken ++ rest) (by simp) taken rest rfl htakes

theorem forall_cons_eq_append_iff {P : List Char → List Char → Prop} {c : Char} :
    (∀ s t, c :: cs = s ++ t → P s t) ↔
      P [] (c :: cs) ∧ ∀ s t, cs = s ++ t → P (c :: s) t := by
  constructor
  · intro h
    exact ⟨h [] (c :: cs) rfl, fun s t hst => h (c :: s) t (by rw [hst]; rfl)⟩
  · rintro ⟨hnil, hcons⟩ s t hst
    cases s with
    | nil =>
        obtain rfl : c :: cs = t := hst
        exact hnil
    | cons d s =>
        obtain ⟨rfl, rfl⟩ := List.cons.inj hst
        exact hcons s t rfl

theorem exists_first_place (h : ¬ ∀ s t, cs = s ++ t → p.Refuses (b ++ s) t) :
    ∃ before rest, cs = before ++ rest ∧ ¬ p.Refuses (b ++ before) rest ∧
      ∀ s t, before = s ++ t → t ≠ [] → p.Refuses (b ++ s) (t ++ rest) := by
  induction cs generalizing b with
  | nil =>
      refine ⟨[], [], rfl, fun hrefuses => h fun s t hst => ?_, fun s t hst ht => ?_⟩
      · obtain ⟨rfl, rfl⟩ := List.append_eq_nil_iff.mp hst.symm
        exact hrefuses
      · exact absurd (List.append_eq_nil_iff.mp hst.symm).2 ht
  | cons c cs ih =>
      by_cases hfirst : p.Refuses b (c :: cs)
      · rw [forall_cons_eq_append_iff, List.append_nil] at h
        obtain ⟨before, rest, rfl, hnot, hbefore⟩ := @ih (b ++ [c]) fun hall =>
          h ⟨hfirst, fun s t hst => by simpa using hall s t hst⟩
        refine ⟨c :: before, rest, rfl, by simpa using hnot, ?_⟩
        rw [forall_cons_eq_append_iff, List.append_nil]
        exact ⟨fun _ => hfirst, fun s t hst ht => by simpa using hbefore s t hst ht⟩
      · exact ⟨[], c :: cs, rfl, by rwa [List.append_nil], fun s t hst ht =>
          absurd (List.append_eq_nil_iff.mp hst.symm).2 ht⟩

/-- What is found stands at the first place that is not refused, and is the best match there. -/
theorem exists_of_search_eq_some {m : Match} (h : p.search (Cursor.after b cs) = some m) :
    ∃ before taken rest g, cs = before ++ (taken ++ rest) ∧ p.Best (b ++ before) taken rest [] g ∧
      m = ⟨Cursor.after (b ++ before) (taken ++ rest), Cursor.after (b ++ before ++ taken) rest, g⟩ ∧
      ∀ s t, before = s ++ t → t ≠ [] → p.Refuses (b ++ s) (t ++ (taken ++ rest)) := by
  have hnot : ¬ ∀ s t, cs = s ++ t → p.Refuses (b ++ s) t := by
    rw [← search_eq_none_iff, h]
    simp
  obtain ⟨before, rest, rfl, hplace, hbefore⟩ := exists_first_place hnot
  obtain ⟨taken, rest, g, rfl, hbest⟩ := exists_best_of_not_refuses hplace
  have hsearch : p.search (Cursor.after b (before ++ (taken ++ rest))) = _ :=
    searchFrom_eq_some (matchAt_of_best hbest) hbefore
  exact ⟨before, taken, rest, g, rfl, hbest, Option.some.inj (h.symm.trans hsearch), hbefore⟩

theorem search_cons_of_refuses {c : Char} (h : p.Refuses b (c :: cs)) :
    p.search (Cursor.after b (c :: cs)) = p.search (Cursor.after (b ++ [c]) cs) := by
  have hat : p.matchAt ⟨b.getLast?, c :: cs, b.length⟩ = none := matchAt_eq_none_iff.mpr h
  change p.searchFrom b.getLast? (c :: cs) b.length =
    p.searchFrom (b ++ [c]).getLast? cs (b ++ [c]).length
  rw [searchFrom_cons, hat]
  simp

theorem search_of_best (h : p.Best b taken rest [] g) :
    p.search (Cursor.after b (taken ++ rest)) =
      some ⟨Cursor.after b (taken ++ rest), Cursor.after (b ++ taken) rest, g⟩ := by
  have hat := matchAt_of_best h
  exact @searchFrom_eq_some p b _ [] (taken ++ rest) (by simpa using hat) fun s t hst ht =>
    absurd (List.append_eq_nil_iff.mp hst.symm).2 ht

section Replace

variable {replacement : List Char} (hp : ∀ before taken rest, p.Takes before taken rest → taken ≠ [])

theorem replaceFrom_eq_self (h : ∀ s t, cs = s ++ t → p.Refuses (b ++ s) t) :
    p.replaceFrom replacement (Cursor.after b cs) = cs := by
  rw [replaceFrom, search_eq_none_iff.mpr h]
  rfl

include hp

theorem replaceFrom_of_best (h : p.Best b taken rest [] g) :
    p.replaceFrom replacement (Cursor.after b (taken ++ rest)) =
      replacement ++ p.replaceFrom replacement (Cursor.after (b ++ taken) rest) := by
  have hlength : rest.length < (taken ++ rest).length := by
    have := List.length_pos_iff.mpr (hp _ _ _ (takes_of_best h))
    rw [List.length_append]
    omega
  rw [replaceFrom, search_of_best h]
  refine (if_pos hlength).trans ?_
  simp [Capture.between]

theorem replaceFrom_cons_of_refuses {c : Char} (h : p.Refuses b (c :: cs)) :
    p.replaceFrom replacement (Cursor.after b (c :: cs)) =
      c :: p.replaceFrom replacement (Cursor.after (b ++ [c]) cs) := by
  rw [replaceFrom, search_cons_of_refuses h, replaceFrom]
  cases hsearch : p.search (Cursor.after (b ++ [c]) cs) with
  | none => rfl
  | some m =>
      obtain ⟨before, taken, rest, g, rfl, hbest, rfl, -⟩ := exists_of_search_eq_some hsearch
      have hlength : rest.length < (before ++ (taken ++ rest)).length := by
        have := List.length_pos_iff.mpr (hp _ _ _ (takes_of_best hbest))
        simp only [List.length_append]
        omega
      refine (if_pos (Nat.lt_succ_of_lt hlength)).trans (Eq.trans ?_
        (congrArg (c :: ·) (if_pos hlength).symm))
      have hshift : b.length + (before.length + 1) - (b.length + 1) = before.length := by omega
      simp [Capture.between, Cursor.after, hshift]

end Replace

/-- Every match takes something, and no match begins inside another. -/
def Separate (p : Pattern) : Prop :=
  ∀ before taken rest, p.Takes before taken rest → taken ≠ [] ∧
    ∀ s t, taken = s ++ t → s ≠ [] → t ≠ [] → p.Refuses (before ++ s) (t ++ rest)

section Separate

variable (hp : p.Separate)
include hp

theorem allFrom_nil : p.allFrom (Cursor.after b []) = [] := by
  have hnone : p.search (Cursor.after b []) = none := search_eq_none_iff.mpr fun s t hst => by
    obtain ⟨rfl, rfl⟩ := List.append_eq_nil_iff.mp hst.symm
    intro taken rest htaken htakes
    obtain ⟨rfl, rfl⟩ := List.append_eq_nil_iff.mp htaken.symm
    exact (hp _ _ _ htakes).1 rfl
  rw [allFrom, hnone]

theorem allFrom_cons_of_refuses {c : Char} (h : p.Refuses b (c :: cs)) :
    p.allFrom (Cursor.after b (c :: cs)) = p.allFrom (Cursor.after (b ++ [c]) cs) := by
  rw [allFrom, search_cons_of_refuses h, allFrom]
  cases hsearch : p.search (Cursor.after (b ++ [c]) cs) with
  | none => rfl
  | some m =>
      obtain ⟨before, taken, rest, g, rfl, hbest, rfl, -⟩ := exists_of_search_eq_some hsearch
      have hlength : rest.length < (before ++ (taken ++ rest)).length := by
        have := List.length_pos_iff.mpr (hp _ _ _ (takes_of_best hbest)).1
        simp only [List.length_append]
        omega
      exact (if_pos (Nat.lt_succ_of_lt hlength)).trans (if_pos hlength).symm

theorem allFrom_append_of_refuses
    (h : ∀ s t, cs = s ++ t → t ≠ [] → p.Refuses (b ++ s) (t ++ rest)) :
    p.allFrom (Cursor.after b (cs ++ rest)) = p.allFrom (Cursor.after (b ++ cs) rest) := by
  induction cs generalizing b with
  | nil => rw [List.nil_append, List.append_nil]
  | cons c cs ih =>
      have hfirst : p.Refuses b (c :: (cs ++ rest)) := by
        simpa using h [] (c :: cs) rfl (List.cons_ne_nil c cs)
      rw [List.cons_append, allFrom_cons_of_refuses hp hfirst,
        ih fun s t hst ht => by simpa using h (c :: s) t (by rw [hst]; rfl) ht, List.append_assoc]
      rfl

theorem allFrom_cons {c : Char} : p.allFrom (Cursor.after b (c :: cs)) =
    (p.matchAt (Cursor.after b (c :: cs))).toList ++ p.allFrom (Cursor.after (b ++ [c]) cs) := by
  by_cases h : p.Refuses b (c :: cs)
  · rw [matchAt_eq_none_iff.mpr h, allFrom_cons_of_refuses hp h]
    rfl
  · obtain ⟨taken, rest, g, hsplit, hbest⟩ := exists_best_of_not_refuses h
    obtain ⟨hne, hinside⟩ := hp _ _ _ (takes_of_best hbest)
    obtain ⟨d, taken, rfl⟩ := List.exists_cons_of_ne_nil hne
    obtain ⟨rfl, rfl⟩ : c = d ∧ cs = taken ++ rest := List.cons.inj hsplit
    have hall : p.allFrom (Cursor.after b ([] ++ (c :: taken ++ rest))) = _ :=
      allFrom_eq_cons (by rwa [List.append_nil]) hne fun s t hst ht =>
        absurd (List.append_eq_nil_iff.mp hst.symm).2 ht
    have hskip : p.allFrom (Cursor.after (b ++ [c]) (taken ++ rest)) = _ :=
      allFrom_append_of_refuses hp fun s t hst ht => by
        simpa using hinside (c :: s) t (by rw [hst]; rfl) (List.cons_ne_nil c s) ht
    have hat : p.matchAt (Cursor.after b (c :: (taken ++ rest))) = _ := matchAt_of_best hbest
    rw [hat, hskip]
    simpa using hall

variable {β : Type} {f : Match → Option β}

theorem findSome?_allFrom_cons {c : Char} : (p.allFrom (Cursor.after b (c :: cs))).findSome? f =
    ((p.matchAt (Cursor.after b (c :: cs))).bind f).or
      ((p.allFrom (Cursor.after (b ++ [c]) cs)).findSome? f) := by
  rw [allFrom_cons hp, List.findSome?_append]
  cases p.matchAt (Cursor.after b (c :: cs)) with
  | none => rfl
  | some m => simp

theorem matchAt_nil : p.matchAt (Cursor.after b []) = none := by
  refine matchAt_eq_none_iff.mpr fun s t hst htakes => (hp _ _ _ htakes).1 ?_
  exact (List.append_eq_nil_iff.mp hst.symm).1

theorem findSome?_allFrom_eq_none_iff : (p.allFrom (Cursor.after b cs)).findSome? f = none ↔
    ∀ s t, cs = s ++ t → (p.matchAt (Cursor.after (b ++ s) t)).bind f = none := by
  induction cs generalizing b with
  | nil =>
      rw [allFrom_nil hp]
      refine iff_of_true rfl fun s t hst => ?_
      obtain ⟨rfl, rfl⟩ := List.append_eq_nil_iff.mp hst.symm
      rw [matchAt_nil hp]
      rfl
  | cons c cs ih =>
      rw [findSome?_allFrom_cons hp, Option.or_eq_none_iff, ih, forall_cons_eq_append_iff,
        List.append_nil]
      simp

theorem findSome?_allFrom_eq_some_iff {x : β} :
    (p.allFrom (Cursor.after b cs)).findSome? f = some x ↔
      ∃ before rest, cs = before ++ rest ∧
        (p.matchAt (Cursor.after (b ++ before) rest)).bind f = some x ∧
        ∀ s t, before = s ++ t → t ≠ [] →
          (p.matchAt (Cursor.after (b ++ s) (t ++ rest))).bind f = none := by
  induction cs generalizing b with
  | nil =>
      rw [allFrom_nil hp]
      refine iff_of_false (by simp) ?_
      rintro ⟨before, rest, hsplit, hat, -⟩
      obtain ⟨rfl, rfl⟩ := List.append_eq_nil_iff.mp hsplit.symm
      rw [matchAt_nil hp] at hat
      cases hat
  | cons c cs ih =>
      rw [findSome?_allFrom_cons hp]
      constructor
      · intro h
        cases hat : (p.matchAt (Cursor.after b (c :: cs))).bind f with
        | some y =>
            rw [hat] at h
            refine ⟨[], c :: cs, rfl, by rwa [List.append_nil, hat], fun s t hst ht => ?_⟩
            exact absurd (List.append_eq_nil_iff.mp hst.symm).2 ht
        | none =>
            rw [hat, Option.none_or, ih] at h
            obtain ⟨before, rest, rfl, hx, hbefore⟩ := h
            refine ⟨c :: before, rest, rfl, by simpa using hx, ?_⟩
            rw [forall_cons_eq_append_iff, List.append_nil]
            exact ⟨fun _ => hat, fun s t hst ht => by simpa using hbefore s t hst ht⟩
      · rintro ⟨before, rest, hsplit, hx, hbefore⟩
        cases before with
        | nil =>
            obtain rfl : c :: cs = rest := hsplit
            rw [List.append_nil] at hx
            rw [hx, Option.some_or]
        | cons d before =>
            obtain ⟨rfl, rfl⟩ : c = d ∧ cs = before ++ rest := List.cons.inj hsplit
            rw [forall_cons_eq_append_iff, List.append_nil] at hbefore
            have hat : (p.matchAt (Cursor.after b (c :: (before ++ rest)))).bind f = none :=
              hbefore.1 (List.cons_ne_nil c before)
            rw [hat, Option.none_or, ih]
            exact ⟨before, rest, rfl, by simpa using hx, fun s t hst ht => by
              simpa using hbefore.2 s t hst ht⟩

end Separate

end EquationTutor.Pattern
