import EquationTutor.Proofs.Pattern.Leftmost
import Mathlib.Data.List.Forall2
/-!
Matching is local. Two texts that share a piece, with the same character before it and with word
characters or none behind it in both, are matched alike as far as the matches stay in the piece:
the same characters are taken in the same order of choices and captured in the same groups.
-/

namespace EquationTutor

/-- Places in the piece `t`, which stands between `b` and `u` in one text and between `b'` and
`u'` in the other, behind the same characters of it. -/
def Cursor.Same (b b' t u u' : List Char) (c c' : Cursor) : Prop :=
  ∃ s r, t = s ++ r ∧ c = Cursor.after (b ++ s) (r ++ u) ∧ c' = Cursor.after (b' ++ s) (r ++ u')

/-- Captures of the same characters of the piece `t`. -/
def Capture.Same (b b' t : List Char) (c c' : Capture) : Prop :=
  ∃ s w r, t = s ++ (w ++ r) ∧ c = ⟨(b ++ s).length, w⟩ ∧ c' = ⟨(b' ++ s).length, w⟩

/-- The same groups, with the same captures. -/
def Groups.Same (b b' t : List Char) : Groups → Groups → Prop :=
  List.Forall₂ fun e e' => e.1 = e'.1 ∧ Capture.Same b b' t e.2 e'.2

/-- Ends in the piece `s ++ t`, behind the characters `s`. -/
structure End.Same (b b' s t u u' : List Char) (e e' : End) : Prop where
  cursor : Cursor.Same (b ++ s) (b' ++ s) t u u' e.cursor e'.cursor
  groups : Groups.Same b b' (s ++ t) e.groups e'.groups

variable {b b' s t u u' : List Char} {g g' : Groups} {e e' : End} {c c' : Cursor}

theorem Capture.between_after (before taken rest : List Char) :
    Capture.between (.after before (taken ++ rest)) (.after (before ++ taken) rest) =
      ⟨before.length, taken⟩ := by
  simp [Capture.between, Cursor.after]

theorem Cursor.same_start : Cursor.Same b b' t u u' (.after b (t ++ u)) (.after b' (t ++ u')) :=
  ⟨[], t, rfl, by rw [List.append_nil], by rw [List.append_nil]⟩

theorem Cursor.Same.append (h : Cursor.Same (b ++ s) (b' ++ s) t u u' c c') :
    Cursor.Same b b' (s ++ t) u u' c c' := by
  obtain ⟨s', r, rfl, rfl, rfl⟩ := h
  exact ⟨s ++ s', r, (List.append_assoc ..).symm, by rw [List.append_assoc],
    by rw [List.append_assoc]⟩

theorem End.Same.append {r : List Char} (h : End.Same b b' (s ++ r) t u u' e e') :
    End.Same b b' s (r ++ t) u u' e e' := by
  obtain ⟨hcursor, hgroups⟩ := h
  rw [← List.append_assoc, ← List.append_assoc] at hcursor
  rw [List.append_assoc] at hgroups
  exact ⟨hcursor.append, hgroups⟩

theorem getLast?_append_eq (hb : b.getLast? = b'.getLast?) (s : List Char) :
    (b ++ s).getLast? = (b' ++ s).getLast? := by
  rw [List.getLast?_append, List.getLast?_append, hb]

/-- The ends that leave `u` behind. -/
def endsBefore (u : List Char) (es : List End) : List End :=
  es.filter fun e => u.length ≤ e.cursor.rest.length

namespace Pattern

variable {p q : Pattern} {accepts : Char → Bool} {greedy : Bool} {least : Nat}
  {most : Option Nat}

theorem endsBefore_append (es fs : List End) :
    endsBefore u (es ++ fs) = endsBefore u es ++ endsBefore u fs :=
  List.filter_append ..

theorem endsBefore_eq_self {es : List End} (h : ∀ e ∈ es, u.length ≤ e.cursor.rest.length) :
    endsBefore u es = es :=
  List.filter_eq_self.mpr fun e he => decide_eq_true (h e he)

theorem endsBefore_flatMap {es : List End} :
    endsBefore u (es.flatMap fun e => q.ends e.cursor e.groups) =
      (endsBefore u es).flatMap fun e => endsBefore u (q.ends e.cursor e.groups) := by
  induction es with
  | nil => rfl
  | cons e es ih =>
      rw [List.flatMap_cons, endsBefore_append, ih]
      by_cases he : u.length ≤ e.cursor.rest.length
      · rw [endsBefore.eq_1 u (e :: es), List.filter_cons_of_pos (by simpa using he),
          List.flatMap_cons, ← endsBefore]
      · have hnone : endsBefore u (q.ends e.cursor e.groups) = [] := by
          refine List.filter_eq_nil_iff.mpr fun f hf => ?_
          obtain ⟨taken, hrest, -⟩ := exists_inOrder_of_mem_ends hf
          have := congrArg List.length hrest
          rw [List.length_append] at this
          simp only [decide_eq_true_eq]
          omega
        rw [hnone, endsBefore.eq_1 u (e :: es), List.filter_cons_of_neg (by simpa using he),
          List.nil_append, ← endsBefore]

theorem filter_endsRepeated_nil {before : Option Char} {offset : Nat} :
    (endsRepeated accepts greedy least most before u offset).filter
      (fun c => u.length ≤ c.rest.length) = if least = 0 then [⟨before, u, offset⟩] else [] := by
  have hstop (c : Cursor) (hc : u.length ≤ c.rest.length) :
      (if least = 0 then [c] else []).filter (fun c => decide (u.length ≤ c.rest.length)) =
        if least = 0 then [c] else [] := by
    split <;> simp [hc]
  cases u with
  | nil => exact hstop _ (Nat.le_refl _)
  | cons x u =>
      have hmore : (if (accepts x && most != some 0) = true then
          endsRepeated accepts greedy (least - 1) (most.map (· - 1)) (some x) u (offset + 1)
          else []).filter (fun c => decide ((x :: u).length ≤ c.rest.length)) = [] := by
        refine List.filter_eq_nil_iff.mpr fun c hc => ?_
        split at hc
        · obtain ⟨taken, hrest, -⟩ := exists_inOrder_of_mem_endsRepeated hc
          have := congrArg List.length hrest
          rw [List.length_append] at this
          simp only [List.length_cons, decide_eq_true_eq]
          omega
        · cases hc
      simp only [endsRepeated]
      split
      · rw [List.filter_append, hmore, List.nil_append]
        exact hstop _ (Nat.le_refl _)
      · rw [List.filter_append, hmore, List.append_nil]
        exact hstop _ (Nat.le_refl _)

theorem forall₂_endsRepeated (hb : b.getLast? = b'.getLast?) :
    List.Forall₂ (Cursor.Same b b' t u u')
      ((endsRepeated accepts greedy least most b.getLast? (t ++ u) b.length).filter
        fun c => u.length ≤ c.rest.length)
      ((endsRepeated accepts greedy least most b'.getLast? (t ++ u') b'.length).filter
        fun c => u'.length ≤ c.rest.length) := by
  induction t generalizing b b' least most with
  | nil =>
      rw [List.nil_append, List.nil_append, filter_endsRepeated_nil, filter_endsRepeated_nil]
      split
      · exact .cons Cursor.same_start .nil
      · exact .nil
  | cons x t ih =>
      have hstop : List.Forall₂ (Cursor.Same b b' (x :: t) u u')
          ((if least = 0 then [Cursor.mk b.getLast? (x :: (t ++ u)) b.length] else []).filter
            fun c => u.length ≤ c.rest.length)
          ((if least = 0 then [Cursor.mk b'.getLast? (x :: (t ++ u')) b'.length] else []).filter
            fun c => u'.length ≤ c.rest.length) := by
        split
        · rw [List.filter_cons_of_pos (by simp; omega), List.filter_cons_of_pos (by simp; omega)]
          exact .cons Cursor.same_start .nil
        · exact .nil
      have hmore : List.Forall₂ (Cursor.Same b b' (x :: t) u u')
          ((if (accepts x && most != some 0) = true then
            endsRepeated accepts greedy (least - 1) (most.map (· - 1)) (some x) (t ++ u)
              (b.length + 1) else []).filter fun c => u.length ≤ c.rest.length)
          ((if (accepts x && most != some 0) = true then
            endsRepeated accepts greedy (least - 1) (most.map (· - 1)) (some x) (t ++ u')
              (b'.length + 1) else []).filter fun c => u'.length ≤ c.rest.length) := by
        split
        · have htail := @ih (b ++ [x]) (b' ++ [x]) (least - 1) (most.map (· - 1))
            (getLast?_append_eq hb [x])
          simp only [List.getLast?_append, List.getLast?_singleton, Option.some_or,
            List.length_append, List.length_singleton] at htail
          exact htail.imp fun _ _ h => h.append
        · exact .nil
      simp only [List.cons_append, endsRepeated]
      split
      · rw [List.filter_append, List.filter_append]
        exact List.rel_append hmore hstop
      · rw [List.filter_append, List.filter_append]
        exact List.rel_append hstop hmore

section Ends

variable (hg : Groups.Same b b' (s ++ t) g g')
include hg

theorem forall₂_here : List.Forall₂ (End.Same b b' s t u u')
    (endsBefore u [⟨Cursor.after (b ++ s) (t ++ u), g⟩])
    (endsBefore u' [⟨Cursor.after (b' ++ s) (t ++ u'), g'⟩]) := by
  rw [endsBefore_eq_self (by simp [Cursor.after]), endsBefore_eq_self (by simp [Cursor.after])]
  exact .cons ⟨Cursor.same_start, hg⟩ .nil

theorem forall₂_here_if {x y : Bool} (hxy : x = y) : List.Forall₂ (End.Same b b' s t u u')
    (endsBefore u (if x then [⟨Cursor.after (b ++ s) (t ++ u), g⟩] else []))
    (endsBefore u' (if y then [⟨Cursor.after (b' ++ s) (t ++ u'), g'⟩] else [])) := by
  subst hxy
  cases x with
  | false => exact .nil
  | true => exact forall₂_here hg

theorem forall₂_one : List.Forall₂ (End.Same b b' s t u u')
    (endsBefore u ((one accepts).ends (Cursor.after (b ++ s) (t ++ u)) g))
    (endsBefore u' ((one accepts).ends (Cursor.after (b' ++ s) (t ++ u')) g')) := by
  cases t with
  | nil =>
      have hnone {b u : List Char} {g : Groups} :
          endsBefore u ((one accepts).ends (Cursor.after b u) g) = [] := by
        refine List.filter_eq_nil_iff.mpr fun e he => ?_
        obtain ⟨taken, left, rfl, hcursor, x, rfl, -⟩ := takes_of_mem_ends he
        simp [hcursor, Cursor.after]
      rw [List.nil_append, List.nil_append, hnone, hnone]
      exact .nil
  | cons x t =>
      have hnext := @forall₂_here b b' (s ++ [x]) t u u' g g' (by simpa using hg)
      simp only [Cursor.after, ← List.append_assoc, List.getLast?_append,
        List.getLast?_singleton, Option.some_or, List.length_append,
        List.length_singleton] at hnext
      simp only [ends, Cursor.after, List.cons_append, Cursor.advance, List.length_append]
      split
      · exact hnext.imp fun _ _ h => h.append
      · exact .nil

theorem same_append_group (i : Nat)
    (h : Cursor.Same (b ++ s) (b' ++ s) t u u' c c') :
    Groups.Same b b' (s ++ t) (g ++ [(i, Capture.between (.after (b ++ s) (t ++ u)) c)])
      (g' ++ [(i, Capture.between (.after (b' ++ s) (t ++ u')) c')]) := by
  refine List.rel_append hg (.cons ⟨rfl, ?_⟩ .nil)
  obtain ⟨w, r, rfl, rfl, rfl⟩ := h
  rw [List.append_assoc w r u, List.append_assoc w r u', Capture.between_after,
    Capture.between_after]
  exact ⟨s, w, r, rfl, rfl, rfl⟩

/-- As far as matches stay in a piece, they do not depend on the text around it. -/
theorem forall₂_endsBefore (hb : b.getLast? = b'.getLast?)
    (hu : u.head?.any Text.isWordChar = u'.head?.any Text.isWordChar) :
    List.Forall₂ (End.Same b b' s t u u')
      (endsBefore u (p.ends (Cursor.after (b ++ s) (t ++ u)) g))
      (endsBefore u' (p.ends (Cursor.after (b' ++ s) (t ++ u')) g')) := by
  have hlast := getLast?_append_eq hb
  induction p generalizing s t g g' with
  | empty => exact forall₂_here hg
  | one accepts => exact forall₂_one hg
  | seq p q ihp ihq =>
      rw [ends, ends, endsBefore_flatMap, endsBefore_flatMap]
      refine List.rel_flatMap (ihp hg) ?_
      rintro e e' ⟨⟨w, r, rfl, hcursor, hcursor'⟩, hgroups⟩
      have hq := @ihq (s ++ w) r e.groups e'.groups (by rwa [List.append_assoc])
      rw [← List.append_assoc, ← List.append_assoc, ← hcursor, ← hcursor'] at hq
      exact hq.imp fun _ _ h => h.append
  | alt p q ihp ihq =>
      rw [ends, ends, endsBefore_append, endsBefore_append]
      exact List.rel_append (ihp hg) (ihq hg)
  | optional p ih =>
      rw [ends, ends, endsBefore_append, endsBefore_append]
      exact List.rel_append (ih hg) (forall₂_here hg)
  | repeated accepts least most greedy =>
      rw [ends, ends, endsBefore, endsBefore, List.filter_map, List.filter_map,
        List.forall₂_map_left_iff, List.forall₂_map_right_iff]
      exact (forall₂_endsRepeated (hlast s)).imp fun _ _ h => ⟨h, hg⟩
  | group i p ih =>
      rw [ends, ends, endsBefore, endsBefore, List.filter_map, List.filter_map,
        List.forall₂_map_left_iff, List.forall₂_map_right_iff]
      exact (ih hg).imp fun _ _ h => ⟨h.cursor, same_append_group h.groups i h.cursor⟩
  | boundary =>
      refine forall₂_here_if hg ?_
      change ((b ++ s).getLast?.any _ != (t ++ u).head?.any _) =
        ((b' ++ s).getLast?.any _ != (t ++ u').head?.any _)
      rw [hlast s]
      cases t with
      | nil => rw [List.nil_append, List.nil_append, hu]
      | cons x t => rfl
  | start =>
      refine forall₂_here_if hg ?_
      change (b ++ s).getLast?.isNone = (b' ++ s).getLast?.isNone
      rw [hlast s]

end Ends

/-- What is taken before the rest `t` of a piece does not go beyond the piece. -/
def Stays (p : Pattern) (before t u : List Char) : Prop :=
  ∀ taken rest, t ++ u = taken ++ rest → p.Takes before taken rest → taken.length ≤ t.length

theorem stays_nil : p.Stays b t [] := by
  intro taken rest hsplit _
  have := congrArg List.length hsplit
  simp only [List.length_append, List.length_nil] at this
  omega

theorem stays_of_avoids {d : Char} (h : p.avoids d = true) : p.Stays b t (d :: u) := by
  intro taken rest hsplit htakes
  refine Nat.le_of_not_lt fun hlt => notMem_of_takes h htakes ?_
  have hd : (taken ++ rest)[t.length]? = some d := by
    rw [← hsplit, List.getElem?_append_right (Nat.le_refl _), Nat.sub_self]
    rfl
  rw [List.getElem?_append_left hlt] at hd
  exact List.mem_of_getElem? hd

theorem Stays.endsBefore_eq (h : p.Stays b t u) (g : Groups) :
    endsBefore u (p.ends (Cursor.after b (t ++ u)) g) = p.ends (Cursor.after b (t ++ u)) g := by
  refine endsBefore_eq_self fun e he => ?_
  obtain ⟨taken, rest, hsplit, hcursor, htakes⟩ := takes_of_mem_ends he
  have hlength := congrArg List.length hsplit
  have hstays := h taken rest hsplit htakes
  rw [hcursor]
  simp only [List.length_append, Cursor.after] at hlength ⊢
  omega

theorem rel_matchAt (hb : b.getLast? = b'.getLast?)
    (hu : u.head?.any Text.isWordChar = u'.head?.any Text.isWordChar)
    (h : p.Stays (b ++ s) t u) (h' : p.Stays (b' ++ s) t u') :
    Option.Rel (fun m m' => Groups.Same b b' (s ++ t) m.groups m'.groups)
      (p.matchAt (Cursor.after (b ++ s) (t ++ u)))
      (p.matchAt (Cursor.after (b' ++ s) (t ++ u'))) := by
  have hends := @forall₂_endsBefore b b' s t u u' [] [] p .nil hb hu
  rw [h.endsBefore_eq, h'.endsBefore_eq] at hends
  rw [matchAt, matchAt, run_eq_findSome?, run_eq_findSome?]
  generalize p.ends (Cursor.after (b ++ s) (t ++ u)) [] = es at hends ⊢
  generalize p.ends (Cursor.after (b' ++ s) (t ++ u')) [] = es' at hends ⊢
  cases hends with
  | nil => exact .none
  | cons he _ => exact .some he.groups

theorem search_cons {x : Char} {cs : List Char} : p.search (Cursor.after b (x :: cs)) =
    (p.matchAt (Cursor.after b (x :: cs))).or (p.search (Cursor.after (b ++ [x]) cs)) := by
  change p.searchFrom b.getLast? (x :: cs) b.length =
    (p.matchAt ⟨b.getLast?, x :: cs, b.length⟩).or
      (p.searchFrom (b ++ [x]).getLast? cs (b ++ [x]).length)
  rw [searchFrom_cons, Option.or_eq_orElse]
  simp

theorem search_append_of_refuses (h : ∀ s r, t = s ++ r → r ≠ [] → p.Refuses (b ++ s) (r ++ u)) :
    p.search (Cursor.after b (t ++ u)) = p.search (Cursor.after (b ++ t) u) := by
  induction t generalizing b with
  | nil => rw [List.nil_append, List.append_nil]
  | cons x t ih =>
      have hfirst : p.Refuses b (x :: (t ++ u)) := by
        simpa using h [] (x :: t) rfl (List.cons_ne_nil x t)
      rw [List.cons_append, search_cons_of_refuses hfirst,
        ih fun s r hsplit hr => by simpa using h (x :: s) r (by rw [hsplit]; rfl) hr,
        List.append_assoc]
      rfl

section Option

variable {α β γ : Type} {R S : α → β → Prop} {x x' : Option α} {y y' : Option β}

theorem rel_or (h : Option.Rel R x y) (h' : x = none → Option.Rel R x' y') :
    Option.Rel R (x.or x') (y.or y') := by
  cases h with
  | none => exact h' rfl
  | some h => exact .some h

theorem rel_imp (h : Option.Rel R x y) (hRS : ∀ a b, R a b → S a b) : Option.Rel S x y := by
  cases h with
  | none => exact .none
  | some h => exact .some (hRS _ _ h)

theorem rel_bind {δ : Type} {T : γ → δ → Prop} {f : α → Option γ} {f' : β → Option δ}
    (h : Option.Rel R x y) (hf : ∀ a b, R a b → Option.Rel T (f a) (f' b)) :
    Option.Rel T (x.bind f) (y.bind f') := by
  cases h with
  | none => exact .none
  | some h => exact hf _ _ h

theorem rel_filter {P : α → Bool} {P' : β → Bool} (h : Option.Rel R x y)
    (hP : ∀ a b, R a b → P a = P' b) : Option.Rel R (x.filter P) (y.filter P') := by
  cases h with
  | none => exact .none
  | @some a b h =>
      rw [Option.filter_some, Option.filter_some, hP a b h]
      cases P' b with
      | false => exact .none
      | true => exact .some h

theorem map_eq_of_rel {f : α → γ} {f' : β → γ} (h : Option.Rel R x y)
    (hf : ∀ a b, R a b → f a = f' b) : x.map f = y.map f' := by
  cases h with
  | none => rfl
  | some h => exact congrArg some (hf _ _ h)

end Option

section Search

variable {R : Match → Match → Prop}

/-- Searches that find the same at each place of a piece go on behind it together. -/
theorem rel_search
    (hplace : ∀ s r, t = s ++ r → r ≠ [] → Option.Rel R
      (p.matchAt (Cursor.after (b ++ s) (r ++ u))) (p.matchAt (Cursor.after (b' ++ s) (r ++ u'))))
    (hrest : (∀ s r, t = s ++ r → r ≠ [] → p.Refuses (b ++ s) (r ++ u)) → Option.Rel R
      (p.search (Cursor.after (b ++ t) u)) (p.search (Cursor.after (b' ++ t) u'))) :
    Option.Rel R (p.search (Cursor.after b (t ++ u))) (p.search (Cursor.after b' (t ++ u'))) := by
  induction t generalizing b b' with
  | nil =>
      rw [List.append_nil, List.append_nil] at hrest
      exact hrest fun s r hsplit hr => absurd (List.append_eq_nil_iff.mp hsplit.symm).2 hr
  | cons x t ih =>
      rw [List.cons_append, List.cons_append, search_cons, search_cons]
      refine rel_or ?_ fun hat => ih (fun s r hsplit hr => ?_) fun hnone => ?_
      · simpa using hplace [] (x :: t) rfl (List.cons_ne_nil x t)
      · simpa using hplace (x :: s) r (by rw [hsplit]; rfl) hr
      · have hall : ∀ s r, x :: t = s ++ r → r ≠ [] → p.Refuses (b ++ s) (r ++ u) := by
          rw [forall_cons_eq_append_iff, List.append_nil]
          exact ⟨fun _ => matchAt_eq_none_iff.mp hat, fun s r hsplit hr => by
            simpa using hnone s r hsplit hr⟩
        simpa using hrest hall

variable {β : Type} {S : β → β → Prop} {f f' : Match → Option β}

theorem rel_findSome?_allFrom (hp : p.Separate)
    (hplace : ∀ s r, t = s ++ r → r ≠ [] → Option.Rel S
      ((p.matchAt (Cursor.after (b ++ s) (r ++ u))).bind f)
      ((p.matchAt (Cursor.after (b' ++ s) (r ++ u'))).bind f'))
    (hrest : Option.Rel S ((p.allFrom (Cursor.after (b ++ t) u)).findSome? f)
      ((p.allFrom (Cursor.after (b' ++ t) u')).findSome? f')) :
    Option.Rel S ((p.allFrom (Cursor.after b (t ++ u))).findSome? f)
      ((p.allFrom (Cursor.after b' (t ++ u'))).findSome? f') := by
  induction t generalizing b b' with
  | nil => rwa [List.append_nil, List.append_nil] at hrest
  | cons x t ih =>
      rw [List.cons_append, List.cons_append, findSome?_allFrom_cons hp, findSome?_allFrom_cons hp]
      refine rel_or ?_ fun _ => ih (fun s r hsplit hr => ?_) ?_
      · simpa using hplace [] (x :: t) rfl (List.cons_ne_nil x t)
      · simpa using hplace (x :: s) r (by rw [hsplit]; rfl) hr
      · simpa using hrest

end Search

end Pattern

/-- Captures of the same characters, both before a piece `m` that is exchanged for `m'` or equally
far behind it. -/
def Capture.Exchanged (b m m' : List Char) (c c' : Capture) : Prop :=
  c.chars = c'.chars ∧ ((c.offset = c'.offset ∧ c.offset ≤ b.length) ∨
    ∃ k, c.offset = (b ++ m).length + k ∧ c'.offset = (b ++ m').length + k)

/-- The same groups, with captures that the exchange of a piece leaves alone. -/
def Match.Exchanged (b m m' : List Char) (x x' : Match) : Prop :=
  List.Forall₂ (fun e e' => e.1 = e'.1 ∧ Capture.Exchanged b m m' e.2 e'.2) x.groups x'.groups

section Exchange

variable {a m m' : List Char} {d d' : Capture} {k k' : Capture} {x x' : Match}

theorem Capture.Exchanged.offset_eq_iff (h : Capture.Exchanged b m m' k k')
    (hd : Capture.Exchanged b m m' d d') (hm : m ≠ []) (hm' : m' ≠ []) :
    k.offset = d.offset ↔ k'.offset = d'.offset := by
  have hpos := List.length_pos_iff.mpr hm
  have hpos' := List.length_pos_iff.mpr hm'
  obtain ⟨-, h⟩ := h
  obtain ⟨-, hd⟩ := hd
  simp only [List.length_append] at h hd
  rcases h with h | ⟨i, h⟩ <;> rcases hd with hd | ⟨j, hd⟩ <;> omega

theorem Capture.Exchanged.offset_ne_iff {o o' : Option Capture}
    (h : Capture.Exchanged b m m' k k') (ho : Option.Rel (Capture.Exchanged b m m') o o')
    (hm : m ≠ []) (hm' : m' ≠ []) :
    some k.offset ≠ o.map Capture.offset ↔ some k'.offset ≠ o'.map Capture.offset := by
  cases ho with
  | none => simp
  | some hd => simpa using not_congr (h.offset_eq_iff hd hm hm')

theorem Match.Exchanged.capture? (h : Match.Exchanged b m m' x x') (i : Nat) :
    Option.Rel (Capture.Exchanged b m m') (x.capture? i) (x'.capture? i) := by
  rw [Match.capture?, Match.capture?]
  rw [Match.Exchanged] at h
  generalize x.groups = g at h ⊢
  generalize x'.groups = g' at h ⊢
  induction h with
  | nil => exact .none
  | @cons e e' _ _ he _ ih =>
      obtain ⟨j, c⟩ := e
      obtain ⟨j', c'⟩ := e'
      obtain ⟨rfl, hc⟩ : j = j' ∧ Capture.Exchanged b m m' c c' := he
      rw [List.lookup_cons, List.lookup_cons]
      cases i == j with
      | false => exact ih
      | true => exact .some hc

theorem Match.Exchanged.group_eq (h : Match.Exchanged b m m' x x') (i : Nat) :
    x.group i = x'.group i := by
  have htext : (x.capture? i).map Capture.text = (x'.capture? i).map Capture.text :=
    Pattern.map_eq_of_rel (h.capture? i) fun _ _ hc => congrArg String.ofList hc.1
  rw [Match.group, Match.group, Match.group?, Match.group?, htext]

theorem Groups.Same.exchanged_before (h : Groups.Same [] [] b x.groups x'.groups) :
    Match.Exchanged b m m' x x' := by
  refine h.imp ?_
  rintro ⟨j, _⟩ ⟨j', _⟩ ⟨hj, s, w, r, rfl, rfl, rfl⟩
  refine ⟨hj, rfl, .inl ⟨rfl, ?_⟩⟩
  simp only [List.nil_append, List.length_append]
  omega

theorem Groups.Same.exchanged_behind (h : Groups.Same (b ++ m) (b ++ m') a x.groups x'.groups) :
    Match.Exchanged b m m' x x' := by
  refine h.imp ?_
  rintro ⟨j, _⟩ ⟨j', _⟩ ⟨hj, s, w, r, rfl, rfl, rfl⟩
  exact ⟨hj, rfl, .inr ⟨s.length, List.length_append .., List.length_append ..⟩⟩

namespace Pattern

variable {p : Pattern} {s r : List Char}

/-- The pattern takes nothing from the places of a piece on. -/
def Skips (p : Pattern) (b m a : List Char) : Prop :=
  ∀ s r, m = s ++ r → r ≠ [] → p.Refuses (b ++ s) (r ++ a)

variable (hhead : (m ++ a).head?.any Text.isWordChar = (m' ++ a).head?.any Text.isWordChar)
  (hlast : (b ++ m).getLast? = (b ++ m').getLast?)
  (hbefore : ∀ s r, b = s ++ r → r ≠ [] → p.Stays s r (m ++ a) ∧ p.Stays s r (m' ++ a))

include hhead hbefore in
theorem rel_matchAt_before (hsplit : b = s ++ r) (hr : r ≠ []) :
    Option.Rel (Match.Exchanged b m m') (p.matchAt (Cursor.after ([] ++ s) (r ++ (m ++ a))))
      (p.matchAt (Cursor.after ([] ++ s) (r ++ (m' ++ a)))) := by
  obtain ⟨hstays, hstays'⟩ := hbefore s r hsplit hr
  have hrel := @rel_matchAt [] [] s r (m ++ a) (m' ++ a) p rfl hhead hstays hstays'
  rw [← hsplit] at hrel
  exact rel_imp hrel fun _ _ h => h.exchanged_before

include hlast in
theorem rel_matchAt_behind (hsplit : a = s ++ r) :
    Option.Rel (Match.Exchanged b m m') (p.matchAt (Cursor.after (b ++ m ++ s) (r ++ [])))
      (p.matchAt (Cursor.after (b ++ m' ++ s) (r ++ []))) := by
  have hrel := @rel_matchAt (b ++ m) (b ++ m') s r [] [] p hlast rfl stays_nil stays_nil
  rw [← hsplit] at hrel
  exact rel_imp hrel fun _ _ h => h.exchanged_behind

include hhead hlast hbefore

/-- A search does not see the exchange of a piece from whose places on nothing is taken. -/
theorem rel_search_exchange (hskips : p.Skips [] b (m ++ a) → p.Skips b m a ∧ p.Skips b m' a) :
    Option.Rel (Match.Exchanged b m m') (p.search (Cursor.after [] (b ++ (m ++ a))))
      (p.search (Cursor.after [] (b ++ (m' ++ a)))) := by
  refine rel_search (fun _ _ hsplit hr => rel_matchAt_before hhead hbefore hsplit hr)
    fun hnone => ?_
  obtain ⟨hskip, hskip'⟩ := hskips hnone
  rw [List.nil_append, search_append_of_refuses hskip, search_append_of_refuses hskip',
    ← List.append_nil a]
  refine rel_search (fun _ _ hsplit _ => rel_matchAt_behind hlast hsplit) fun _ => ?_
  exact rel_matchAt_behind hlast (List.append_nil a).symm

theorem rel_findSome?_exchange {β : Type} {S : β → β → Prop} {f f' : Match → Option β}
    (hp : p.Separate) (hskip : p.Skips b m a) (hskip' : p.Skips b m' a)
    (hf : ∀ x x', Match.Exchanged b m m' x x' → Option.Rel S (f x) (f' x')) :
    Option.Rel S ((p.allFrom (Cursor.after [] (b ++ (m ++ a)))).findSome? f)
      ((p.allFrom (Cursor.after [] (b ++ (m' ++ a)))).findSome? f') := by
  refine rel_findSome?_allFrom hp
    (fun _ _ hsplit hr => rel_bind (rel_matchAt_before hhead hbefore hsplit hr) hf) ?_
  rw [List.nil_append, allFrom_append_of_refuses hp hskip, allFrom_append_of_refuses hp hskip',
    ← List.append_nil a]
  refine rel_findSome?_allFrom hp
    (fun _ _ hsplit _ => rel_bind (rel_matchAt_behind hlast hsplit) hf) ?_
  rw [allFrom_nil hp, allFrom_nil hp]
  exact .none

end Pattern

end Exchange

end EquationTutor
