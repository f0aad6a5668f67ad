import EquationTutor.Proofs.Pattern.Leftmost
import EquationTutor.Proofs.Reading.Pieces
/-!
Which of the ways to match a sequence comes first. If its first part prefers longer pieces, it
takes the longest one behind which the other part fits.
-/

namespace EquationTutor.Pattern

/-- Of two pieces that can be taken at a place, the longer one is tried first. -/
def PrefersLonger (p : Pattern) : Prop :=
  ∀ ⦃before cs g earlier e later⦄, p.ends (Cursor.after before cs) g = earlier ++ e :: later →
    ∀ ⦃s rest⦄, cs = s ++ rest → p.Takes before s rest → rest.length < e.cursor.rest.length →
      ∃ e' ∈ earlier, e'.cursor = Cursor.after (before ++ s) rest

variable {p q r : Pattern} {before cs s t taken rest : List Char} {g g' g'' : Groups}

theorem exists_end_of_takes (hcs : cs = s ++ rest) (h : p.Takes before s rest) (g : Groups) :
    ∃ e ∈ p.ends (Cursor.after before cs) g, e.cursor = Cursor.after (before ++ s) rest := by
  obtain ⟨g', hmem⟩ := exists_mem_ends_of_takes h g
  exact ⟨_, hcs ▸ hmem, rfl⟩

theorem prefersLonger_of_pairwise (h : ∀ before cs g, (p.ends (Cursor.after before cs) g).Pairwise
    fun e e' => e.cursor.rest.length ≤ e'.cursor.rest.length) : p.PrefersLonger := by
  intro before cs g earlier e later hends s rest hcs htakes hlt
  obtain ⟨e', hmem, hcursor⟩ := exists_end_of_takes hcs htakes g
  have hrest : e'.cursor.rest = rest := by rw [hcursor, Cursor.after]
  have hpairwise := h before cs g
  rw [hends] at hmem hpairwise
  rcases List.mem_append.mp hmem with hmem | hmem
  · exact ⟨e', hmem, hcursor⟩
  · rcases List.mem_cons.mp hmem with rfl | hmem
    · rw [hrest] at hlt
      exact absurd hlt (Nat.lt_irrefl _)
    · have hle := (List.pairwise_cons.mp (List.pairwise_append.mp hpairwise).2.1).1 e' hmem
      rw [hrest] at hle
      exact absurd hlt (Nat.not_lt.mpr hle)

theorem prefersLonger_one (accepts : Char → Bool) : (one accepts).PrefersLonger := by
  refine prefersLonger_of_pairwise fun before cs g => ?_
  rw [ends]
  split
  · exact .nil
  · split
    · exact List.pairwise_singleton _ _
    · exact .nil

theorem prefersLonger_char (c : Char) : (char c).PrefersLonger :=
  prefersLonger_one _

theorem pairwise_endsRepeated (accepts : Char → Bool) (least : Nat) (before : Option Char)
    (cs : List Char) (offset : Nat) :
    (endsRepeated accepts true least none before cs offset).Pairwise
      (fun c c' => c.rest.length ≤ c'.rest.length) ∧
    ∀ c ∈ endsRepeated accepts true least none before cs offset, c.rest.length ≤ cs.length := by
  induction cs generalizing least before offset with
  | nil =>
      rw [endsRepeated]
      split <;> simp
  | cons x cs ih =>
      obtain ⟨hpairwise, hle⟩ := ih (least - 1) (some x) (offset + 1)
      have hmore : ∀ c ∈ (if (accepts x && (none : Option Nat) != some 0) = true then
          endsRepeated accepts true (least - 1) none (some x) cs (offset + 1) else []),
          c.rest.length ≤ cs.length := by
        split
        · exact hle
        · exact fun c hc => absurd hc List.not_mem_nil
      have hstop : ∀ c ∈ (if least = 0 then [Cursor.mk before (x :: cs) offset] else []),
          c.rest = x :: cs := by
        split <;> simp
      simp only [endsRepeated, if_true, Option.map_none]
      refine ⟨List.pairwise_append.mpr ⟨?_, ?_, fun a ha b hb => ?_⟩, fun c hc => ?_⟩
      · split
        · exact hpairwise
        · exact .nil
      · split
        · exact List.pairwise_singleton _ _
        · exact .nil
      · rw [hstop b hb, List.length_cons]
        exact Nat.le_succ_of_le (hmore a ha)
      · rcases List.mem_append.mp hc with hc | hc
        · exact Nat.le_succ_of_le (hmore c hc)
        · exact Nat.le_of_eq (congrArg List.length (hstop c hc))

theorem prefersLonger_repeated (accepts : Char → Bool) (least : Nat) :
    (repeated accepts least none true).PrefersLonger :=
  prefersLonger_of_pairwise fun before cs _ =>
    List.pairwise_map.mpr (pairwise_endsRepeated accepts least before.getLast? cs before.length).1

theorem prefersLonger_optional (h : p.PrefersLonger) : (optional p).PrefersLonger := by
  intro before cs g earlier e later hends s rest hcs htakes hlt
  have hmem : e ∈ (optional p).ends (Cursor.after before cs) g := by
    rw [hends]
    exact List.mem_append_cons_self
  obtain ⟨taken, left, hsplit, hcursor, -⟩ := takes_of_mem_ends hmem
  have hp : p.Takes before s rest := by
    refine htakes.resolve_right ?_
    rintro rfl
    rw [hcursor] at hlt
    rw [hcs, List.nil_append] at hsplit
    rw [hsplit, List.length_append] at hlt
    exact absurd hlt (Nat.not_lt.mpr (Nat.le_add_left _ _))
  rw [ends] at hends
  rcases List.append_eq_append_iff.mp hends with ⟨l, rfl, hl⟩ | ⟨l, hp_ends, hl⟩
  · obtain ⟨e', hmem', hcursor'⟩ := exists_end_of_takes hcs hp g
    exact ⟨e', List.mem_append_left _ hmem', hcursor'⟩
  · cases l with
    | nil =>
        obtain ⟨e', hmem', hcursor'⟩ := exists_end_of_takes hcs hp g
        rw [hp_ends, List.append_nil] at hmem'
        exact ⟨e', hmem', hcursor'⟩
    | cons a l =>
        obtain ⟨rfl, -⟩ := List.cons.inj hl
        exact h hp_ends hcs hp hlt

theorem prefersLonger_group {i : Nat} (h : p.PrefersLonger) : (group i p).PrefersLonger := by
  intro before cs g earlier e later hends s rest hcs htakes hlt
  obtain ⟨xs, ys, hp, rfl, hys⟩ := List.map_eq_append_iff.mp hends
  obtain ⟨x, xs', rfl, rfl, -⟩ := List.map_eq_cons_iff.mp hys
  obtain ⟨e', hmem, hcursor⟩ := h hp hcs htakes hlt
  exact ⟨_, List.mem_map_of_mem hmem, hcursor⟩

theorem prefersLonger_alt (hp : p.PrefersLonger) (hq : q.PrefersLonger)
    (h : ∀ before cs, p.Refuses before cs ∨ q.Refuses before cs) : (alt p q).PrefersLonger := by
  intro before cs g earlier e later hends s rest hcs htakes hlt
  rw [ends] at hends
  rcases h before cs with hrefuses | hrefuses
  · rw [ends_of_refuses hrefuses, List.nil_append] at hends
    exact hq hends hcs (htakes.resolve_left (hrefuses s rest hcs)) hlt
  · rw [ends_of_refuses hrefuses, List.append_nil] at hends
    exact hp hends hcs (htakes.resolve_right (hrefuses s rest hcs)) hlt

theorem exists_of_flatMap_eq_append_cons {β γ : Type} {l : List β} {f : β → List γ}
    {xs ys : List γ} {y : γ} (h : l.flatMap f = xs ++ y :: ys) :
    ∃ as a bs us vs, l = as ++ a :: bs ∧ f a = us ++ y :: vs ∧ xs = as.flatMap f ++ us := by
  induction l generalizing xs with
  | nil => simp at h
  | cons b l ih =>
      rw [List.flatMap_cons] at h
      rcases List.append_eq_append_iff.mp h with ⟨zs, rfl, hzs⟩ | ⟨zs, hb, hzs⟩
      · obtain ⟨as, a, bs, us, vs, rfl, ha, rfl⟩ := ih hzs
        exact ⟨b :: as, a, bs, us, vs, rfl, ha, by simp⟩
      · cases zs with
        | nil =>
            rw [List.nil_append] at hzs
            obtain ⟨as, a, bs, us, vs, rfl, ha, hnil⟩ := @ih [] hzs.symm
            exact ⟨b :: as, a, bs, us, vs, rfl, ha, by simp [hb, ← hnil]⟩
        | cons z zs =>
            obtain ⟨rfl, -⟩ := List.cons.inj hzs
            exact ⟨[], b, l, xs, zs, rfl, hb, rfl⟩

/-- Whatever the second part can take beyond a longer piece of the first, it can take of what that
piece leaves. -/
def CatchesUp (p q : Pattern) : Prop :=
  ∀ ⦃before s v t rest⦄, p.Takes before s (v ++ (t ++ rest)) → p.Takes before (s ++ v) (t ++ rest) →
    v ≠ [] → t ≠ [] → q.Takes (before ++ s) (v ++ t) rest → q.Takes (before ++ (s ++ v)) t rest

theorem exists_of_append_eq_append {β : Type} {as bs cs ds : List β} (h : as ++ bs = cs ++ ds)
    (hlt : cs.length < as.length) : ∃ v, v ≠ [] ∧ as = cs ++ v ∧ ds = v ++ bs := by
  rcases List.append_eq_append_iff.mp h with ⟨v, rfl, -⟩ | ⟨v, rfl, hv⟩
  · rw [List.length_append] at hlt
    omega
  · refine ⟨v, ?_, rfl, hv⟩
    rintro rfl
    simp at hlt

theorem prefersLonger_seq (hp : p.PrefersLonger) (hq : q.PrefersLonger) (h : p.CatchesUp q) :
    (seq p q).PrefersLonger := by
  intro before cs g earlier e later hends u rest hcs htakes hlt
  rw [ends] at hends
  obtain ⟨as, a, bs, xs, ys, hp_ends, hq_ends, rfl⟩ := exists_of_flatMap_eq_append_cons hends
  have hmem : a ∈ p.ends (Cursor.after before cs) g := hp_ends ▸ List.mem_append_cons_self
  obtain ⟨s, left, rfl, ha, hs⟩ := takes_of_mem_ends hmem
  rw [ha] at hq_ends
  have hmem' : e ∈ q.ends (Cursor.after (before ++ s) left) a.groups :=
    hq_ends ▸ List.mem_append_cons_self
  obtain ⟨t, left, rfl, he, ht⟩ := takes_of_mem_ends hmem'
  have hleft : rest.length < left.length := by
    rw [he] at hlt
    exact hlt
  obtain ⟨s', t', rfl, hs', ht'⟩ := htakes
  rw [List.append_assoc] at hcs
  -- at the end of the first part that is reached here, the second one prefers longer pieces
  have hsame {t' : List Char} (hsplit : t ++ left = t' ++ rest)
      (ht' : q.Takes (before ++ s) t' rest) :
      ∃ e' ∈ as.flatMap (fun e => q.ends e.cursor e.groups) ++ xs,
        e'.cursor = Cursor.after (before ++ (s ++ t')) rest := by
    obtain ⟨e', hmem, hcursor⟩ := hq hq_ends hsplit ht' hlt
    exact ⟨e', List.mem_append_right _ hmem, by rw [hcursor, List.append_assoc]⟩
  rcases Nat.lt_trichotomy s.length s'.length with hlt' | heq | hgt
  · obtain ⟨a', hmem, hcursor⟩ := hp hp_ends hcs hs' (by
      rw [ha, Cursor.after]
      have := congrArg List.length hcs
      simp only [List.length_append] at this ⊢
      omega)
    obtain ⟨e', hmem', hcursor'⟩ := exists_end_of_takes rfl ht' a'.groups
    refine ⟨e', List.mem_append_left _ (List.mem_flatMap.mpr ⟨a', hmem, ?_⟩), by
      rw [hcursor', List.append_assoc]⟩
    rwa [hcursor]
  · obtain ⟨rfl, hsplit⟩ := List.append_inj hcs heq
    exact hsame hsplit ht'
  · obtain ⟨v, hne, rfl, hv⟩ := exists_of_append_eq_append hcs hgt
    have hlength : v.length < t'.length := by
      have := congrArg List.length hv
      simp only [List.length_append] at this
      omega
    obtain ⟨t'', hne', rfl, hsplit⟩ := exists_of_append_eq_append hv hlength
    rw [hsplit] at hs
    rw [List.append_assoc] at hs'
    obtain ⟨e', hmem, hcursor⟩ := hsame hsplit (h hs' hs hne hne' ht')
    exact ⟨e', hmem, by rw [hcursor, List.append_assoc]⟩

theorem takes_of_mem_ends_of_cursor {e : End} (h : e ∈ p.ends (Cursor.after before (s ++ rest)) g)
    (he : e.cursor = Cursor.after (before ++ s) rest) : p.Takes before s rest := by
  obtain ⟨taken, left, hsplit, hcursor, htakes⟩ := takes_of_mem_ends h
  obtain rfl : rest = left := congrArg Cursor.rest (he.symm.trans hcursor)
  obtain rfl := List.append_cancel_right hsplit
  exact htakes

theorem refuses_iff_ends_eq_nil :
    p.Refuses before rest ↔ p.ends (Cursor.after before rest) [] = [] := by
  refine ⟨fun h => ends_of_refuses h [], fun h s t hst hs => ?_⟩
  obtain ⟨e, he, -⟩ := exists_end_of_takes hst hs []
  rw [h] at he
  cases he

theorem refuses_iff_not_begins : p.Refuses before rest ↔ ¬ p.Begins before rest := by
  simp only [Refuses, Begins, not_exists, not_and]

/-- The first way to match a sequence goes through the first end of its first part behind which
the second one can be taken. -/
theorem exists_of_best_seq (h : (seq p q).Best before taken rest g g'') :
    ∃ s t earlier e later, taken = s ++ t ∧
      p.ends (Cursor.after before (s ++ (t ++ rest))) g = earlier ++ e :: later ∧
      e.cursor = Cursor.after (before ++ s) (t ++ rest) ∧
      q.Best (before ++ s) t rest e.groups g'' ∧
      ∀ e' ∈ earlier, q.ends e'.cursor e'.groups = [] := by
  obtain ⟨es, hes⟩ := List.head?_eq_some_iff.mp h
  obtain ⟨as, a, bs, xs, ys, hp_ends, hq_ends, hnil⟩ :=
    exists_of_flatMap_eq_append_cons (hes.trans (List.nil_append _).symm)
  obtain ⟨hearlier, rfl⟩ := List.append_eq_nil_iff.mp hnil.symm
  have hmem : a ∈ p.ends (Cursor.after before (taken ++ rest)) g :=
    hp_ends ▸ List.mem_append_cons_self
  obtain ⟨s, left, hsplit, ha, -⟩ := takes_of_mem_ends hmem
  rw [List.nil_append, ha] at hq_ends
  have hmem' : ⟨Cursor.after (before ++ taken) rest, g''⟩ ∈
      q.ends (Cursor.after (before ++ s) left) a.groups := hq_ends ▸ List.mem_cons_self
  obtain ⟨t, left', rfl, hcursor, -⟩ := takes_of_mem_ends hmem'
  obtain rfl : rest = left' := congrArg Cursor.rest hcursor
  rw [← List.append_assoc] at hsplit
  obtain rfl := List.append_cancel_right hsplit
  rw [List.append_assoc] at hp_ends
  refine ⟨s, t, as, a, bs, rfl, hp_ends, ha, ?_, List.flatMap_eq_nil_iff.mp hearlier⟩
  rw [Best, hq_ends, List.append_assoc]
  rfl

theorem exists_end_of_best_seq (h : (seq p q).Best before taken rest g g'') :
    ∃ s t e, taken = s ++ t ∧ e ∈ p.ends (Cursor.after before (s ++ (t ++ rest))) g ∧
      e.cursor = Cursor.after (before ++ s) (t ++ rest) ∧
      q.Best (before ++ s) t rest e.groups g'' := by
  obtain ⟨s, t, earlier, e, later, rfl, hends, he, hbest, -⟩ := exists_of_best_seq h
  exact ⟨s, t, e, rfl, hends ▸ List.mem_append_cons_self, he, hbest⟩

/-- Behind longer pieces of the first part the second one is refused. -/
theorem exists_longest_of_best_seq (hp : p.PrefersLonger)
    (h : (seq p q).Best before taken rest g g'') :
    ∃ s t e, taken = s ++ t ∧ e ∈ p.ends (Cursor.after before (s ++ (t ++ rest))) g ∧
      e.cursor = Cursor.after (before ++ s) (t ++ rest) ∧
      q.Best (before ++ s) t rest e.groups g'' ∧
      ∀ u left, s ++ (t ++ rest) = u ++ left → p.Takes before u left → s.length < u.length →
        q.Refuses (before ++ u) left := by
  obtain ⟨s, t, earlier, e, later, rfl, hends, he, hbest, hearlier⟩ := exists_of_best_seq h
  refine ⟨s, t, e, rfl, hends ▸ List.mem_append_cons_self, he, hbest,
    fun u left hsplit hu hlt => ?_⟩
  obtain ⟨e', hmem, hcursor⟩ := hp hends hsplit hu (by
    have := congrArg List.length hsplit
    rw [he, Cursor.after]
    simp only [List.length_append] at this ⊢
    omega)
  intro v w hleft hv
  obtain ⟨g', hmem'⟩ := exists_mem_ends_of_takes hv e'.groups
  have hnil := hearlier e' hmem
  rw [hcursor, hleft] at hnil
  rw [hnil] at hmem'
  cases hmem'

section First

/-- Whether nothing may be taken. -/
def nullable : Pattern → Bool
  | one _ => false
  | seq p q => p.nullable && q.nullable
  | alt p q => p.nullable || q.nullable
  | repeated _ least _ _ => least == 0
  | group _ p => p.nullable
  | _ => true

/-- Whether a piece that is taken may begin with the character. -/
def startsWith (d : Char) : Pattern → Bool
  | one accepts => accepts d
  | seq p q => p.startsWith d || (p.nullable && q.startsWith d)
  | alt p q => p.startsWith d || q.startsWith d
  | optional p => p.startsWith d
  | repeated accepts _ _ _ => accepts d
  | group _ p => p.startsWith d
  | _ => false

theorem nullable_of_takes (h : p.Takes before [] rest) : p.nullable = true := by
  induction p generalizing before rest with
  | one accepts =>
      obtain ⟨c, hc, -⟩ := h
      cases hc
  | seq p q ihp ihq =>
      obtain ⟨s, t, hst, hs, ht⟩ := h
      obtain ⟨rfl, rfl⟩ := List.append_eq_nil_iff.mp hst.symm
      exact Bool.and_eq_true_iff.mpr ⟨ihp hs, ihq ht⟩
  | alt p q ihp ihq => exact Bool.or_eq_true_iff.mpr (h.imp ihp ihq)
  | repeated accepts least most greedy => exact beq_iff_eq.mpr (Nat.le_zero.mp h.2.1)
  | group i p ih => exact ih h
  | empty | optional | boundary | start => rfl

theorem startsWith_of_takes {d : Char} (h : p.Takes before (d :: s) rest) :
    p.startsWith d = true := by
  induction p generalizing before s rest with
  | one accepts =>
      obtain ⟨c, hc, haccepts⟩ := h
      obtain ⟨rfl, -⟩ := List.cons.inj hc
      exact haccepts
  | seq p q ihp ihq =>
      obtain ⟨u, v, huv, hu, hv⟩ := h
      rw [startsWith, Bool.or_eq_true, Bool.and_eq_true]
      cases u with
      | nil =>
          obtain rfl : d :: s = v := huv
          exact Or.inr ⟨nullable_of_takes hu, ihq hv⟩
      | cons c u =>
          obtain ⟨rfl, -⟩ := List.cons.inj huv
          exact Or.inl (ihp hu)
  | alt p q ihp ihq => exact Bool.or_eq_true_iff.mpr (h.imp ihp ihq)
  | optional p ih => exact ih (h.resolve_right (List.cons_ne_nil d s))
  | repeated accepts least most greedy => exact h.1 d List.mem_cons_self
  | group i p ih => exact ih h
  | empty => cases h
  | boundary | start => cases h.1

theorem refuses_of_startsWith (hnullable : p.nullable = false)
    (h : ∀ d ∈ rest.head?, p.startsWith d = false) : p.Refuses before rest := by
  rintro s t rfl ht
  cases s with
  | nil =>
      rw [nullable_of_takes ht] at hnullable
      cases hnullable
  | cons d s =>
      have hd := h d rfl
      rw [startsWith_of_takes ht] at hd
      cases hd

/-- The second part begins with no character of the first one. -/
theorem catchesUp_of_startsWith (h : ∀ d, q.startsWith d = true → p.avoids d = true) :
    p.CatchesUp q := by
  intro before s v t rest _ hp hv _ hq
  obtain ⟨d, v, rfl⟩ := List.exists_cons_of_ne_nil hv
  exact absurd (by simp) (notMem_of_takes (h d (startsWith_of_takes hq)) hp)

theorem catchesUp_one (accepts : Char → Bool) : (one accepts).CatchesUp q := by
  rintro before s v t rest ⟨c, rfl, -⟩ ⟨d, hd, -⟩ hv - -
  cases v with
  | nil => exact absurd rfl hv
  | cons e v => cases hd

end First

/-- The numbers of the groups of a pattern. -/
def indices : Pattern → List Nat
  | seq p q => p.indices ++ q.indices
  | alt p q => p.indices ++ q.indices
  | optional p => p.indices
  | group i p => p.indices ++ [i]
  | _ => []

theorem exists_groups_eq_append {c : Cursor} {e : End} (h : e ∈ p.ends c g) :
    ∃ found, e.groups = g ++ found ∧ ∀ w ∈ found, w.1 ∈ p.indices := by
  have hnone {g : Groups} {e : End} (he : e.groups = g) {is : List Nat} :
      ∃ found, e.groups = g ++ found ∧ ∀ w ∈ found, w.1 ∈ is :=
    ⟨[], by rw [he, List.append_nil], nofun⟩
  induction p generalizing c g e with
  | empty => exact hnone (congrArg End.groups (List.mem_singleton.mp h))
  | one accepts =>
      rw [ends] at h
      split at h
      · cases h
      · split at h
        · exact hnone (congrArg End.groups (List.mem_singleton.mp h))
        · cases h
  | seq p q ihp ihq =>
      obtain ⟨a, ha, he⟩ := List.mem_flatMap.mp h
      obtain ⟨found, hfound, hmem⟩ := ihp ha
      obtain ⟨found', hfound', hmem'⟩ := ihq he
      refine ⟨found ++ found', by rw [hfound', hfound, List.append_assoc], fun w hw => ?_⟩
      exact List.mem_append.mpr ((List.mem_append.mp hw).imp (hmem w) (hmem' w))
  | alt p q ihp ihq =>
      rcases List.mem_append.mp h with h | h
      · obtain ⟨found, hfound, hmem⟩ := ihp h
        exact ⟨found, hfound, fun w hw => List.mem_append_left _ (hmem w hw)⟩
      · obtain ⟨found, hfound, hmem⟩ := ihq h
        exact ⟨found, hfound, fun w hw => List.mem_append_right _ (hmem w hw)⟩
  | optional p ih =>
      rcases List.mem_append.mp h with h | h
      · exact ih h
      · exact hnone (congrArg End.groups (List.mem_singleton.mp h))
  | repeated accepts least most greedy =>
      obtain ⟨a, -, rfl⟩ := List.mem_map.mp h
      exact hnone rfl
  | group i p ih =>
      obtain ⟨a, ha, rfl⟩ := List.mem_map.mp h
      obtain ⟨found, hfound, hmem⟩ := ih ha
      refine ⟨found ++ [(i, Capture.between c a.cursor)], by simp [hfound], fun w hw => ?_⟩
      rcases List.mem_append.mp hw with hw | hw
      · exact List.mem_append_left _ (hmem w hw)
      · rw [List.mem_singleton.mp hw]
        exact List.mem_append_right _ List.mem_cons_self
  | boundary | start =>
      rw [ends] at h
      split at h
      · exact hnone (congrArg End.groups (List.mem_singleton.mp h))
      · cases h

/-- A group without groups inside keeps what it takes. -/
theorem groups_eq_of_mem_group {i : Nat} {e : End} (hp : p.indices = [])
    (h : e ∈ (group i p).ends (Cursor.after before (s ++ rest)) g)
    (he : e.cursor = Cursor.after (before ++ s) rest) :
    e.groups = g ++ [(i, ⟨before.length, s⟩)] := by
  obtain ⟨a, ha, rfl⟩ := List.mem_map.mp h
  obtain ⟨found, hfound, hmem⟩ := exists_groups_eq_append ha
  have hnil : found = [] := List.eq_nil_iff_forall_not_mem.mpr fun w hw => by
    have := hmem w hw
    rw [hp] at this
    cases this
  have hcursor : a.cursor = Cursor.after (before ++ s) rest := he
  simp [hfound, hnil, hcursor, Capture.between, Cursor.after]

theorem lookup_append_cons {found others : Groups} {i : Nat} {c : Capture}
    (h : ∀ w ∈ found, w.1 ≠ i) : (found ++ (i, c) :: others).lookup i = some c := by
  have hnone : found.lookup i = none := by
    rw [List.lookup_eq_none_iff]
    exact fun w hw => by simpa using (h w hw).symm
  simp [List.lookup_append, hnone]

end EquationTutor.Pattern
