import EquationTutor.Proofs.Problem.Records
import EquationTutor.Proofs.Reading.AmountValues
import EquationTutor.Reading.Extract
/-!
The two amounts of a problem of compound interest. The amount that is reached is the first one
with a word that announces it, and the principal is the first one behind another dollar sign.
-/

namespace EquationTutor.Reading

open Double Pattern PolynomialText

/-- The words before an amount that is reached. -/
def announcements : List String :=
  ["to", "reach", "become", "becomes"]

/-- One of these words, in either case. -/
def IsAnnouncement (w : List Char) : Prop :=
  ∃ v ∈ announcements, w.map foldCase = v.toList

/-- One of these words and blanks behind it. -/
def IsLead (cs : List Char) : Prop :=
  ∃ w gap, cs = w ++ gap ∧ IsAnnouncement w ∧ gap ≠ [] ∧ AllBlank gap

/-- The text ends in such a word and blanks, and no word character precedes the word. -/
def Announces (cs : List Char) : Prop :=
  ∃ front lead, cs = front ++ lead ∧ front.getLast?.any Text.isWordChar = false ∧ IsLead lead

/-- An amount of dollars whose sign stands behind `i` characters. -/
def DollarAt (words : List Char) (i : Nat) (a : List Char) : Prop :=
  ∃ gap, Costs (words.drop i) gap a

/-- An amount of dollars with a word that announces it. -/
def ReachedAt (words : List Char) (i : Nat) (a : List Char) : Prop :=
  DollarAt words i a ∧ Announces (words.take i)

/-- The first of the places with their amounts, if there is any. -/
def IsFirstAmount (P : Nat → List Char → Prop) : Option (Nat × List Char) → Prop
  | none => ∀ i a, ¬ P i a
  | some (i, a) => P i a ∧ ∀ j b, P j b → i ≤ j

variable {before taken rest cs gap gap' lead a b w : List Char} {i j : Nat} {g : Groups}

theorem IsAnnouncement.exists_cons (h : IsAnnouncement w) :
    ∃ c u, w = c :: u ∧ Text.isWordChar c = true := by
  have hheads : ∀ v ∈ announcements, ∃ l ls, v.toList = l :: ls ∧ Text.isWordChar l = true := by
    simp only [announcements, List.forall_mem_cons, List.not_mem_nil, false_implies, implies_true,
      and_true]
    exact ⟨⟨'t', ['o'], rfl, isWordChar_of_isAlphanum (by decide)⟩,
      ⟨'r', _, rfl, isWordChar_of_isAlphanum (by decide)⟩,
      ⟨'b', _, rfl, isWordChar_of_isAlphanum (by decide)⟩,
      ⟨'b', _, rfl, isWordChar_of_isAlphanum (by decide)⟩⟩
  obtain ⟨v, hv, hw⟩ := h
  obtain ⟨l, ls, hl, hword⟩ := hheads v hv
  rw [hl] at hw
  obtain ⟨c, u, rfl, rfl, -⟩ := List.map_eq_cons_iff.mp hw
  exact ⟨c, u, rfl, by rwa [isWordChar_foldCase] at hword⟩

theorem IsAnnouncement.isWordChar_head? (h : IsAnnouncement w) (u : List Char) :
    (w ++ u).head?.any Text.isWordChar = true := by
  obtain ⟨c, v, rfl, hc⟩ := h.exists_cons
  simpa using hc

theorem refuses_word_of_head {v : String} (hv : ∀ l ∈ v.toList, foldCase l = l)
    (h : ∀ c ∈ cs.head?, some (foldCase c) ≠ v.toList.head?) (hne : v.toList ≠ []) :
    (word v).Refuses before cs := by
  rintro s t rfl hs
  rw [takes_word hv] at hs
  obtain ⟨l, ls, hl⟩ := List.exists_cons_of_ne_nil hne
  rw [hl] at hs h
  obtain ⟨c, u, rfl, rfl, -⟩ := List.map_eq_cons_iff.mp hs
  exact h c rfl rfl

theorem foldCase_to : ∀ l ∈ "to".toList, foldCase l = l :=
  List.all_iff_forall_prop.mp (by decide)

theorem foldCase_reach : ∀ l ∈ "reach".toList, foldCase l = l :=
  List.all_iff_forall_prop.mp (by decide)

theorem foldCase_become : ∀ l ∈ "become".toList, foldCase l = l :=
  List.all_iff_forall_prop.mp (by decide)

/-- The words that come before an amount, one after another. -/
abbrev announcement : Pattern :=
  any [word "to", word "reach", plural "become"]

theorem isAnnouncement_iff : IsAnnouncement w ↔
    w.map foldCase = "to".toList ∨ w.map foldCase = "reach".toList ∨
      ∃ s t, w = s ++ t ∧ s.map foldCase = "become".toList ∧ (t.map foldCase = ['s'] ∨ t = []) := by
  simp only [IsAnnouncement, announcements, List.exists_mem_cons_iff, List.not_mem_nil, false_and,
    exists_false, or_false]
  refine or_congr_right (or_congr_right ⟨?_, ?_⟩)
  · rintro (h | h)
    · exact ⟨w, [], (List.append_nil w).symm, h, .inr rfl⟩
    · have hsplit : "becomes".toList = "become".toList ++ ['s'] := by decide
      obtain ⟨s, t, rfl, hs, ht⟩ := List.map_eq_append_iff.mp (h.trans hsplit)
      exact ⟨s, t, rfl, hs, .inl ht⟩
  · rintro ⟨s, t, rfl, hs, ht | rfl⟩
    · rw [List.map_append, hs, ht]
      exact .inr rfl
    · rw [List.append_nil, hs]
      exact .inl rfl

theorem takes_announcement : announcement.Takes before w rest ↔ IsAnnouncement w := by
  rw [isAnnouncement_iff]
  simp only [any, takes_alt, plural, cat, takes_seq, takes_optional,
    takes_word foldCase_to, takes_word foldCase_reach, takes_word foldCase_become,
    takes_letter (by decide : foldCase 's' = 's')]

theorem best_announcement (hw : IsAnnouncement w)
    (hrest : ∀ c ∈ rest.head?, Text.isBlank c = true) : announcement.Best before w rest g g := by
  have hrefuses {v v' : String} {s t : List Char} (hv : ∀ l ∈ v.toList, foldCase l = l)
      (hne : v.toList ≠ []) (hne' : v'.toList ≠ []) (h : s.map foldCase = v'.toList)
      (hheads : v'.toList.head? ≠ v.toList.head?) : (word v).Refuses before (s ++ t) := by
    refine refuses_word_of_head hv (fun c hc => ?_) hne
    obtain ⟨d, ds, hd⟩ := List.exists_cons_of_ne_nil hne'
    rw [hd] at h hheads
    obtain ⟨e, u, rfl, rfl, -⟩ := List.map_eq_cons_iff.mp h
    obtain rfl : e = c := by simpa using hc
    exact hheads
  rcases isAnnouncement_iff.mp hw with h | h | ⟨s, t, rfl, hs, ht⟩
  · exact best_alt_left (best_word foldCase_to h)
  · exact best_alt_right (hrefuses foldCase_to (by decide) (by decide) h (by decide))
      (best_alt_left (best_word foldCase_reach h))
  · refine best_alt_right ?_ (best_alt_right ?_ (best_seq (best_word foldCase_become hs) ?_))
    · rw [List.append_assoc]
      exact hrefuses foldCase_to (by decide) (by decide) hs (by decide)
    · rw [List.append_assoc]
      exact hrefuses foldCase_reach (by decide) (by decide) hs (by decide)
    · rcases ht with ht | rfl
      · obtain ⟨c, rfl, hc⟩ := List.map_eq_singleton_iff.mp ht
        exact best_optional (best_letter (by decide) hc)
      · refine best_optional_of_refuses (refuses_one fun c hc => ?_)
        rw [Bool.eq_false_iff, ne_eq, isVariantOf_iff (by decide)]
        intro hs
        have hword : Text.isWordChar c = true := by
          rw [← isWordChar_foldCase, hs]
          exact isWordChar_of_isAlphanum (by decide)
        have := hrest c hc
        rw [Text.not_blank_of_isWordChar hword] at this
        cases this

theorem IsLead.sign_notMem (h : IsLead lead) : '$' ∉ lead := by
  obtain ⟨w, gap, rfl, hw, -, hgap⟩ := h
  rw [List.mem_append, not_or]
  have htakes : announcement.Takes [] w [] := takes_announcement.mpr hw
  exact ⟨notMem_of_takes (by decide) htakes, fun hmem => absurd (hgap '$' hmem) (by decide)⟩

theorem takes_targetMoney : Shape.targetMoney.Takes before taken rest ↔
    ∃ lead cost, taken = lead ++ cost ∧ before.getLast?.any Text.isWordChar = false ∧
      IsLead lead ∧ Shape.money.Takes (before ++ lead) cost rest := by
  simp only [Shape.targetMoney, cat, takes_seq, takes_announcement, blanks1, takes_oneOrMore]
  constructor
  · rintro ⟨_, _, rfl, ⟨rfl, hbefore⟩, w, _, rfl, hw, gap, cost, rfl, ⟨hne, hgap⟩, hcost⟩
    rw [List.append_assoc, hw.isWordChar_head?] at hbefore
    refine ⟨w ++ gap, cost, by simp, by simpa using hbefore, ⟨w, gap, rfl, hw, hne, hgap⟩, ?_⟩
    simpa using hcost
  · rintro ⟨_, cost, rfl, hbefore, ⟨w, gap, rfl, hw, hne, hgap⟩, hcost⟩
    refine ⟨[], w ++ (gap ++ cost), by simp, ⟨rfl, ?_⟩, w, _, rfl, hw, gap, cost, rfl,
      ⟨hne, hgap⟩, by simpa using hcost⟩
    rw [List.append_assoc, hw.isWordChar_head?, hbefore]
    decide

theorem best_targetMoney (hbefore : before.getLast?.any Text.isWordChar = false)
    (hlead : IsLead lead) (hgap : AllBlank gap) (ha : IsAmountOf a (a ++ rest)) :
    Shape.targetMoney.Best before (lead ++ '$' :: (gap ++ a)) rest g
      (g ++ [(1, ⟨(before ++ lead).length + 1 + gap.length, a⟩)]) := by
  obtain ⟨w, blanks, rfl, hw, hne, hblank⟩ := hlead
  have hboundary :
      boundary.Best before [] (w ++ (blanks ++ '$' :: (gap ++ a)) ++ rest) g g := by
    refine best_boundary ?_
    rw [List.append_assoc, hw.isWordChar_head?, hbefore]
    decide
  have hword : announcement.Best (before ++ []) w (blanks ++ '$' :: (gap ++ a) ++ rest) g g := by
    refine best_announcement hw fun c hc => hblank c ?_
    obtain ⟨d, ds, rfl⟩ := List.exists_cons_of_ne_nil hne
    obtain rfl : d = c := by simpa using hc
    exact List.mem_cons_self
  have hblanks : blanks1.Best (before ++ [] ++ w) blanks ('$' :: (gap ++ a) ++ rest) g g := by
    refine best_repeated hblank (fun c hc => ?_) (List.length_pos_iff.mpr hne)
    obtain rfl : '$' = c := by simpa using hc
    decide
  have hmoney : Shape.money.Best (before ++ [] ++ w ++ blanks) ('$' :: (gap ++ a)) rest g
      (g ++ [(1, ⟨(before ++ (w ++ blanks)).length + 1 + gap.length, a⟩)]) := by
    rw [List.append_nil, List.append_assoc]
    exact best_money hgap ha
  rw [List.append_assoc]
  exact best_seq (s := []) hboundary (best_seq hword (best_seq hblanks hmoney))

section Places

variable (hbefore : before.getLast?.any Text.isWordChar = false) (hlead : IsLead lead)
  (hcosts : Costs cs gap a)
include hbefore hlead hcosts

theorem not_refuses_targetMoney : ¬ Shape.targetMoney.Refuses before (lead ++ cs) := by
  obtain ⟨rest, rfl, ha⟩ := hcosts.exists_rest
  intro hrefuses
  have hbest : Shape.targetMoney.Best before (lead ++ '$' :: (gap ++ a)) rest [] _ :=
    best_targetMoney hbefore hlead hcosts.gap_blank ha
  exact hrefuses _ rest (by simp) (takes_of_best hbest)

theorem capture_matchAt_targetMoney :
    (Shape.targetMoney.matchAt (Cursor.after before (lead ++ cs))).bind (·.capture? 1) =
      some ⟨(before ++ lead).length + 1 + gap.length, a⟩ := by
  obtain ⟨rest, rfl, ha⟩ := hcosts.exists_rest
  have hbest : Shape.targetMoney.Best before (lead ++ '$' :: (gap ++ a)) rest [] _ :=
    best_targetMoney hbefore hlead hcosts.gap_blank ha
  have hat := matchAt_of_best hbest
  rw [List.append_assoc, List.cons_append, List.append_assoc] at hat
  rw [hat]
  rfl

end Places

theorem exists_lead_of_takes (h : Shape.targetMoney.Takes before taken rest) :
    ∃ lead cs gap a, taken ++ rest = lead ++ cs ∧ before.getLast?.any Text.isWordChar = false ∧
      IsLead lead ∧ Costs cs gap a := by
  obtain ⟨lead, cost, rfl, hbefore, hlead, hcost⟩ := takes_targetMoney.mp h
  obtain ⟨gap, a, hcosts⟩ := exists_costs_of_takes hcost
  exact ⟨lead, cost ++ rest, gap, a, List.append_assoc .., hbefore, hlead, hcosts⟩

theorem Costs.blank_of_getElem? (h : Costs (cs.drop i) gap a) {k : Nat} (hk : k < gap.length)
    {c : Char} (hc : cs[i + 1 + k]? = some c) : Text.isBlank c = true := by
  obtain ⟨rest, hrest, -⟩ := h.exists_rest
  have hget : (cs.drop i)[1 + k]? = some c := by
    rw [List.getElem?_drop, ← hc, Nat.add_assoc]
  rw [hrest, Nat.add_comm, List.getElem?_cons_succ, List.getElem?_append_left hk] at hget
  exact h.gap_blank c (List.mem_of_getElem? hget)

theorem Costs.getElem? (h : Costs (cs.drop i) gap a) : cs[i]? = some '$' := by
  obtain ⟨rest, hrest, -⟩ := h.exists_rest
  have hget : (cs.drop i)[0]? = some '$' := by rw [hrest, List.getElem?_cons_zero]
  rwa [List.getElem?_drop, Nat.add_zero] at hget

theorem Costs.place_unique (h : Costs (cs.drop i) gap a) (h' : Costs (cs.drop j) gap' b)
    (hplace : i + 1 + gap.length = j + 1 + gap'.length) : i = j := by
  have hle {i j : Nat} {gap gap' a b : List Char} (h : Costs (cs.drop i) gap a)
      (h' : Costs (cs.drop j) gap' b) (hplace : i + 1 + gap.length = j + 1 + gap'.length) :
      j ≤ i := by
    refine Nat.le_of_not_lt fun hlt => ?_
    obtain ⟨k, rfl⟩ := Nat.exists_eq_add_of_lt hlt
    have hsign : cs[i + 1 + k]? = some '$' := by
      rw [← h'.getElem?]
      congr 1
      omega
    have hblank := h.blank_of_getElem? (by omega) hsign
    exact absurd hblank (by decide)
  exact le_antisymm (hle h' h hplace.symm) (hle h h' hplace)

/-- What is captured is the amount at a place, behind the gap. -/
def Captured (cs : List Char) (c : Option Capture) (e : Option (Nat × List Char)) : Prop :=
  Option.Rel (fun c e => ∃ gap, Costs (cs.drop e.1) gap e.2 ∧ c = ⟨e.1 + 1 + gap.length, e.2⟩) c e

theorem Captured.offset_ne_iff {c : Option Capture} {e : Option (Nat × List Char)}
    (h : Captured cs c e) (hcosts : Costs (cs.drop i) gap a) :
    some (i + 1 + gap.length) ≠ c.map Capture.offset ↔ some i ≠ e.map Prod.fst := by
  cases h with
  | none => simp
  | some h =>
      obtain ⟨gap', hcosts', rfl⟩ := h
      simp only [Option.map_some, ne_eq, Option.some.injEq, not_iff_not]
      refine ⟨fun hplace => hcosts.place_unique hcosts' hplace, ?_⟩
      rintro rfl
      rw [(hcosts.unique hcosts').1]

theorem Captured.eq_some {e : Option (Nat × List Char)}
    (h : Captured cs (some ⟨i + 1 + gap.length, a⟩) e) (hcosts : Costs (cs.drop i) gap a) :
    e = some (i, a) := by
  cases h with
  | some h =>
      obtain ⟨gap', hcosts', heq⟩ := h
      obtain ⟨hplace, rfl⟩ := Capture.mk.inj heq
      rw [hcosts.place_unique hcosts' hplace]

theorem IsFirstAmount.unique {P : Nat → List Char → Prop} {e d : Option (Nat × List Char)}
    (hP : ∀ {i a b}, P i a → P i b → a = b) (he : IsFirstAmount P e) (hd : IsFirstAmount P d) :
    e = d := by
  rcases e with _ | ⟨i, a⟩ <;> rcases d with _ | ⟨j, b⟩
  · rfl
  · exact absurd hd.1 (he j b)
  · exact absurd he.1 (hd i a)
  · obtain rfl : i = j := le_antisymm (he.2 j b hd.1) (hd.2 i a he.1)
    rw [hP he.1 hd.1]

theorem DollarAt.unique (h : DollarAt cs i a) (h' : DollarAt cs i b) : a = b := by
  obtain ⟨gap, hcosts⟩ := h
  obtain ⟨gap', hcosts'⟩ := h'
  exact (hcosts.unique hcosts').2

variable {s : String}

theorem ReachedAt.exists_lead (h : ReachedAt cs i a) : ∃ front lead gap,
    cs = front ++ (lead ++ cs.drop i) ∧ i = (front ++ lead).length ∧
      front.getLast?.any Text.isWordChar = false ∧ IsLead lead ∧ Costs (cs.drop i) gap a := by
  obtain ⟨⟨gap, hcosts⟩, front, lead, htake, hfront, hlead⟩ := h
  have hi : i < cs.length := by
    obtain ⟨hi, -⟩ := List.getElem?_eq_some_iff.mp hcosts.getElem?
    exact hi
  refine ⟨front, lead, gap, ?_, ?_, hfront, hlead, hcosts⟩
  · rw [← List.append_assoc, ← htake, List.take_append_drop]
  · rw [← htake, List.length_take, Nat.min_eq_left hi.le]

theorem reachedAt_of_lead (hsplit : cs = before ++ (lead ++ rest))
    (hbefore : before.getLast?.any Text.isWordChar = false) (hlead : IsLead lead)
    (hcosts : Costs rest gap a) : ReachedAt cs (before ++ lead).length a := by
  rw [← List.append_assoc] at hsplit
  subst hsplit
  refine ⟨⟨gap, ?_⟩, before, lead, List.take_left, hbefore, hlead⟩
  rwa [List.drop_left]

theorem reachedAt_le (hsplit : cs = before ++ (lead ++ rest)) (hlead : IsLead lead)
    (hnone : ∀ s t, before = s ++ t → t ≠ [] →
      Shape.targetMoney.Refuses s (t ++ (lead ++ rest)))
    (h : ReachedAt cs j b) : (before ++ lead).length ≤ j := by
  obtain ⟨front, lead', gap', hsplit', hj, hfront, hlead', hcosts'⟩ := h.exists_lead
  refine Nat.le_of_not_lt fun hlt => ?_
  rcases Nat.lt_or_ge front.length before.length with hshort | hlong
  · obtain ⟨t, rfl⟩ : front <+: before :=
      List.prefix_of_prefix_length_le ⟨_, hsplit'.symm⟩ ⟨_, hsplit.symm⟩ hshort.le
    have ht : t ≠ [] := by
      rintro rfl
      simp at hshort
    have hrest : t ++ (lead ++ rest) = lead' ++ cs.drop j := by
      rw [List.append_assoc] at hsplit
      exact List.append_cancel_left (hsplit.symm.trans hsplit')
    refine not_refuses_targetMoney hfront hlead' hcosts' ?_
    rw [← hrest]
    exact hnone front t rfl ht
  · -- The sign of the other place would stand among the words before this one.
    have hsign : cs[j]? = some '$' := hcosts'.getElem?
    rw [List.length_append] at hj
    rw [hsplit, List.getElem?_append_right (by omega),
      List.getElem?_append_left (by simp only [List.length_append] at hlt; omega)] at hsign
    exact hlead.sign_notMem (List.mem_of_getElem? hsign)

/-- The search for an amount that is reached finds the first one. -/
theorem exists_reached (s : String) : ∃ e, IsFirstAmount (ReachedAt s.toList) e ∧
    Captured s.toList (targetAmount s) e := by
  rw [targetAmount, find?]
  change ∃ e, _ ∧ Captured s.toList ((Shape.targetMoney.search (Cursor.after [] s.toList)).bind _) e
  cases hsearch : Shape.targetMoney.search (Cursor.after [] s.toList) with
  | none =>
      refine ⟨none, fun i a hreached => ?_, .none⟩
      obtain ⟨front, lead, gap, hsplit, -, hfront, hlead, hcosts⟩ := hreached.exists_lead
      exact not_refuses_targetMoney hfront hlead hcosts
        (search_eq_none_iff.mp hsearch front _ hsplit)
  | some m =>
      obtain ⟨before, taken, rest, g, hsplit, hbest, rfl, hnone⟩ :=
        exists_of_search_eq_some hsearch
      rw [List.nil_append] at hbest hsearch
      obtain ⟨lead, cs, gap, a, hcs, hbefore, hlead, hcosts⟩ :=
        exists_lead_of_takes (takes_of_best hbest)
      have hcapture := capture_matchAt_targetMoney hbefore hlead hcosts
      rw [← hcs, matchAt_of_best hbest] at hcapture
      rw [hcs] at hsplit hnone
      have hreached := reachedAt_of_lead hsplit hbefore hlead hcosts
      refine ⟨some ((before ++ lead).length, a), ⟨hreached, fun j b h => ?_⟩, ?_⟩
      · exact reachedAt_le hsplit hlead hnone h
      · have hat : Captured s.toList (some ⟨(before ++ lead).length + 1 + gap.length, a⟩)
            (some ((before ++ lead).length, a)) := by
          refine .some ⟨gap, ?_, rfl⟩
          rwa [hsplit, ← List.append_assoc, List.drop_left]
        rw [← hcapture] at hat
        exact hat

theorem find?_filterMap_eq {α β : Type} (f : α → Option β) (P : β → Bool) (xs : List α) :
    (xs.filterMap f).find? P = xs.findSome? fun x => (f x).filter P := by
  induction xs with
  | nil => rfl
  | cons x xs ih =>
      cases hx : f x with
      | none => simp [hx, ih]
      | some y => by_cases hy : P y = true <;> simp [hx, hy, ih, Option.filter]

theorem filter_capture_matchAt_iff {P : Capture → Bool} {c : Capture} :
    (Shape.money.matchAt (Cursor.after before cs)).bind (fun m => (m.capture? 1).filter P) =
      some c ↔ (∃ gap a, Costs cs gap a ∧ c = ⟨before.length + 1 + gap.length, a⟩) ∧
        P c = true := by
  rw [← capture_matchAt_money_iff]
  cases Shape.money.matchAt (Cursor.after before cs) with
  | none => simp
  | some m => simp [Option.filter_eq_some_iff]

theorem Costs.filter_capture_eq_some {P : Capture → Bool} (h : Costs (cs.drop i) gap a)
    (hP : P ⟨i + 1 + gap.length, a⟩ = true) :
    (Shape.money.matchAt (Cursor.after (cs.take i) (cs.drop i))).bind
      (fun m => (m.capture? 1).filter P) = some ⟨i + 1 + gap.length, a⟩ := by
  obtain ⟨hi, -⟩ := List.getElem?_eq_some_iff.mp h.getElem?
  have htake : (cs.take i).length = i := by rw [List.length_take, Nat.min_eq_left hi.le]
  exact filter_capture_matchAt_iff.mpr ⟨⟨gap, a, h, by rw [htake]⟩, hP⟩

/-- The search for the principal finds the first amount at a place that is not excluded. -/
theorem exists_source {e : Option (Nat × List Char)}
    (he : Captured s.toList (targetAmount s) e) :
    ∃ d, IsFirstAmount (fun i a => DollarAt s.toList i a ∧ some i ≠ e.map Prod.fst) d ∧
      Captured s.toList (principalAmount s) d := by
  rw [principalAmount, find?_filterMap_eq]
  change ∃ d, _ ∧ Captured s.toList
    ((Shape.money.allFrom (Cursor.after [] s.toList)).findSome? _) d
  cases hfind : (Shape.money.allFrom (Cursor.after [] s.toList)).findSome? _ with
  | none =>
      refine ⟨none, fun i a h => ?_, .none⟩
      obtain ⟨⟨gap, hcosts⟩, hi⟩ := h
      have hplace := (findSome?_allFrom_eq_none_iff separate_money).mp hfind (s.toList.take i)
        (s.toList.drop i) (List.take_append_drop i _).symm
      rw [List.nil_append, hcosts.filter_capture_eq_some] at hplace
      · cases hplace
      · rwa [decide_eq_true_eq, he.offset_ne_iff hcosts]
  | some c =>
      obtain ⟨before, rest, hsplit, hat, hnone⟩ :=
        (findSome?_allFrom_eq_some_iff separate_money).mp hfind
      obtain ⟨⟨gap, a, hcosts, rfl⟩, hi⟩ := filter_capture_matchAt_iff.mp hat
      have hdrop : s.toList.drop before.length = rest := by rw [hsplit, List.drop_left]
      rw [← hdrop] at hcosts
      rw [List.nil_append, decide_eq_true_eq, he.offset_ne_iff hcosts] at hi
      refine ⟨some (before.length, a), ⟨⟨⟨gap, hcosts⟩, hi⟩, fun j b h => ?_⟩,
        .some ⟨gap, hcosts, rfl⟩⟩
      obtain ⟨⟨gap', hcosts'⟩, hj⟩ := h
      refine Nat.le_of_not_lt fun hlt => ?_
      have hplace := hnone (before.take j) (before.drop j) (List.take_append_drop j _).symm
        (by rw [← List.length_pos_iff, List.length_drop]; omega)
      have htake : before.take j = s.toList.take j := by
        rw [hsplit, List.take_append_of_le_length hlt.le]
      have hdrop' : before.drop j ++ rest = s.toList.drop j := by
        rw [hsplit, List.drop_append_of_le_length hlt.le]
      rw [List.nil_append, htake, hdrop', hcosts'.filter_capture_eq_some] at hplace
      · cases hplace
      · rwa [decide_eq_true_eq, he.offset_ne_iff hcosts']

section Records

variable {α : Type} {p : Params α} {key other : String}

theorem get?_insertNumber? (v : Option α) : (insertNumber? p key v).get? other =
    if other = key then (v.map .number).or (p.get? other) else p.get? other := by
  cases v with
  | none => simp [insertNumber?]
  | some v =>
      rw [insertNumber?, Params.insertNumber, Params.get?_insert]
      rfl

variable [Scalar α]

theorem get?_insertFrequency (w : String) (h : other ∉ ["frequency", "compounding"]) :
    (insertFrequency p w).get? other = p.get? other := by
  simp only [List.mem_cons, List.not_mem_nil, or_false, not_or] at h
  unfold insertFrequency Params.insertNumber Params.insertText
  split_ifs <;> rw [Params.get?_insert, if_neg (by simp [h])]

theorem get?_compoundInterest (text : String) (scenario : Option String)
    (h : other ∉ ["rate", "time", "frequency", "compounding"]) :
    (compoundInterest text scenario : Params α).get? other =
      (insertNumber? (insertNumber? .empty "final_amount"
          ((targetAmount (wordProblem text scenario)).map fun c => parseAmount c.text))
        "principal"
        ((principalAmount (wordProblem text scenario)).map fun c => parseAmount c.text)).get?
        other := by
  simp only [List.mem_cons, List.not_mem_nil, or_false, not_or] at h
  unfold compoundInterest
  dsimp only
  split
  · rw [get?_insertFrequency _ (by simp [h]), insertRateAndTime, get?_insertNumber?,
      get?_insertNumber?, if_neg h.2.1, if_neg h.1]
  · rw [insertRateAndTime, get?_insertNumber?, get?_insertNumber?, if_neg h.2.1, if_neg h.1]

end Records

section Stored

variable {p : Params Float} {key : String} {e : Option (Nat × List Char)}

/-- An amount is kept if its number is recorded, rounded to a finite double. Where there is no
amount, nothing is. -/
def Keeps (p : Params Float) (key : String) : Option (Nat × List Char) → Prop
  | none => p.get? key = none
  | some (_, a) => ∃ x, p.get? key = some (.number x) ∧ x.isFinite = true ∧
      RoundsTo x (amountNumber a)

/-- What is recorded for an amount: its number if all its digits are of ASCII, and otherwise
zero. -/
def Stores (p : Params Float) (key : String) : Option (Nat × List Char) → Prop
  | none => p.get? key = none
  | some (_, a) => ∃ x, p.get? key = some (.number x) ∧
      (PlainDigits a → RoundsTo x (amountNumber a)) ∧ (¬ PlainDigits a → x = 0)

/-- An amount in ASCII digits that is not rounded to infinity, or in any digits if it is rounded
to zero. -/
def Legible (a : List Char) : Prop :=
  PlainDigits a ∧ amountNumber a < overflowBound ∨ amountNumber a ≤ underflowBound

theorem abs_amountNumber (a : List Char) : |amountNumber a| = amountNumber a :=
  abs_of_nonneg (by unfold amountNumber numeralNumber; positivity)

theorem Stores.keeps_iff (h : Stores p key e) : Keeps p key e ↔ ∀ d ∈ e, Legible d.2 := by
  cases e with
  | none => exact iff_of_true h nofun
  | some d =>
      obtain ⟨i, a⟩ := d
      obtain ⟨x, hx, hplain, hother⟩ := h
      have hkeeps : Keeps p key (some (i, a)) ↔ x.isFinite = true ∧ RoundsTo x (amountNumber a) := by
        simp [Keeps, hx]
      rw [hkeeps]
      simp only [Option.mem_def, Option.some.injEq, forall_eq', Legible]
      by_cases ha : PlainDigits a
      · have hrounds := hplain ha
        rw [hrounds.isFinite_iff, abs_amountNumber]
        simp only [hrounds, and_true, ha, true_and]
        refine ⟨.inl, ?_⟩
        rintro (hlt | hle)
        · exact hlt
        · exact hle.trans_lt underflowBound_lt
      · have hfinite : (0 : Float).isFinite = true := rfl
        rw [hother ha, roundsTo_zero_iff, abs_amountNumber]
        simp [ha, hfinite]

theorem stores_of_captured {c : Option Capture} {cs : List Char} (h : Captured cs c e)
    (hget : p.get? key = (c.map fun c => parseAmount c.text).map .number) : Stores p key e := by
  cases h with
  | none => exact hget
  | some h =>
      rename_i d
      obtain ⟨i, a⟩ := d
      obtain ⟨gap, hcosts, rfl⟩ := h
      obtain ⟨rest, -, ha⟩ := hcosts.exists_rest
      exact ⟨_, hget, roundsTo_parseAmount ha.isAmount, parseAmount_of_not_plain ha.isAmount⟩

theorem get?_final_amount (text : String) (scenario : Option String) :
    (compoundInterest text scenario : Params Float).get? "final_amount" =
      ((targetAmount (wordProblem text scenario)).map fun c => parseAmount c.text).map
        .number := by
  refine (get?_compoundInterest text scenario (by decide)).trans ?_
  rw [get?_insertNumber?, if_neg (by decide), get?_insertNumber?, if_pos rfl, Params.get?_empty,
    Option.or_none]

theorem get?_principal (text : String) (scenario : Option String) :
    (compoundInterest text scenario : Params Float).get? "principal" =
      ((principalAmount (wordProblem text scenario)).map fun c => parseAmount c.text).map
        .number := by
  refine (get?_compoundInterest text scenario (by decide)).trans ?_
  rw [get?_insertNumber?, if_pos rfl, get?_insertNumber?, if_neg (by decide), Params.get?_empty,
    Option.or_none]

/-- The amounts of a problem of compound interest are read behind two different dollar signs: the
first one that is reached, and the first one at another sign. Each is kept if and only if it is
legible. -/
theorem compoundInterest_amounts (text : String) (scenario : Option String) :
    let words := (wordProblem text scenario).toList
    let p : Params Float := extract .compoundInterest text scenario
    ∃ reached source : Option (Nat × List Char),
      IsFirstAmount (ReachedAt words) reached ∧
      IsFirstAmount (fun i a => DollarAt words i a ∧ some i ≠ reached.map Prod.fst) source ∧
      (∀ e ∈ reached, ∀ d ∈ source, e.1 ≠ d.1) ∧
      Stores p "final_amount" reached ∧ Stores p "principal" source ∧
      (Keeps p "final_amount" reached ↔ ∀ e ∈ reached, Legible e.2) ∧
      (Keeps p "principal" source ↔ ∀ d ∈ source, Legible d.2) := by
  intro words p
  obtain ⟨reached, hreached, hcaptured⟩ := exists_reached (wordProblem text scenario)
  obtain ⟨source, hsource, hcaptured'⟩ := exists_source hcaptured
  have hfinal := stores_of_captured hcaptured (get?_final_amount text scenario)
  have hprincipal := stores_of_captured hcaptured' (get?_principal text scenario)
  refine ⟨reached, source, hreached, hsource, ?_, hfinal, hprincipal, hfinal.keeps_iff,
    hprincipal.keeps_iff⟩
  rintro ⟨i, a⟩ rfl ⟨j, b⟩ rfl hij
  exact hsource.1.2 (congrArg some hij.symm)

theorem costs_of_capture (hi : i ≤ cs.length)
    (h : (Shape.money.matchAt (Cursor.after (cs.take i) (cs.drop i))).bind (·.capture? 1) =
      some ⟨i + 1, a⟩) : Costs (cs.drop i) [] a := by
  obtain ⟨gap, b, hcosts, heq⟩ := capture_matchAt_money_iff.mp h
  obtain ⟨hplace, rfl⟩ := Capture.mk.inj heq
  rw [List.length_take, Nat.min_eq_left hi] at hplace
  obtain rfl : gap = [] := List.length_eq_zero_iff.mp (by omega)
  exact hcosts

/-- Two amounts, of which the second one is reached. -/
def growingAmounts : String :=
  "How long until $500 grows to $1,000.50 at 4%?"

/-- Each amount is kept under the key for its part in the text. -/
theorem keeps_growingAmounts :
    Keeps (extract .compoundInterest "" (some growingAmounts)) "final_amount"
      (some (29, "1,000.50".toList)) ∧
    Keeps (extract .compoundInterest "" (some growingAmounts)) "principal"
      (some (15, "500".toList)) := by
  have hwords : wordProblem "" (some growingAmounts) = growingAmounts := by decide
  have hreached : Costs (growingAmounts.toList.drop 29) [] "1,000.50".toList :=
    costs_of_capture (by decide) (by decide +kernel)
  have hsource : Costs (growingAmounts.toList.drop 15) [] "500".toList :=
    costs_of_capture (by decide) (by decide +kernel)
  have hplain : PlainDigits "1,000.50".toList ∧ PlainDigits "500".toList := by
    decide +kernel
  have hnumbers : amountNumber "1,000.50".toList = 1000.5 ∧ amountNumber "500".toList = 500 := by
    decide +kernel
  obtain ⟨reached, source, hfirst, hfirst', -, -, -, hkeeps, hkeeps'⟩ :=
    compoundInterest_amounts "" (some growingAmounts)
  rw [hwords] at hfirst hfirst'
  obtain rfl : reached = some (29, "1,000.50".toList) := by
    obtain ⟨e, he, hcaptured⟩ := exists_reached growingAmounts
    have htarget : targetAmount growingAmounts = some ⟨29 + 1 + 0, "1,000.50".toList⟩ := by
      decide +kernel
    rw [htarget] at hcaptured
    rw [← hcaptured.eq_some hreached]
    exact hfirst.unique (fun h h' => h.1.unique h'.1) he
  obtain rfl : source = some (15, "500".toList) := by
    refine hfirst'.unique (fun h h' => h.1.unique h'.1) ⟨⟨⟨_, hsource⟩, by decide⟩, fun j b h => ?_⟩
    obtain ⟨⟨gap, hcosts⟩, -⟩ := h
    have hsigns : ∀ j < 15, growingAmounts.toList[j]? ≠ some '$' := by decide +kernel
    exact not_lt.mp fun hj => hsigns j hj hcosts.getElem?
  refine ⟨hkeeps.mpr ?_, hkeeps'.mpr ?_⟩
  · rintro _ ⟨⟩
    exact .inl ⟨hplain.1, lt_overflowBound (by rw [hnumbers.1]; norm_num)⟩
  · rintro _ ⟨⟩
    exact .inl ⟨hplain.2, lt_overflowBound (by rw [hnumbers.2]; norm_num)⟩

/-- A principal in the digits of another script. -/
def easternAmount : String :=
  "$١٠٠٠ at 5% compounded annually for 3 years"

/-- The first amount is one thousand, and the principal is recorded as zero. -/
theorem not_keeps_easternAmount :
    IsFirstAmount (ReachedAt easternAmount.toList) none ∧
    IsFirstAmount (DollarAt easternAmount.toList) (some (0, "١٠٠٠".toList)) ∧
    amountNumber "١٠٠٠".toList = 1000 ∧
    ¬ Keeps (extract .compoundInterest "" (some easternAmount)) "principal"
      (some (0, "١٠٠٠".toList)) := by
  have hwords : wordProblem "" (some easternAmount) = easternAmount := by decide
  have hcosts : Costs (easternAmount.toList.drop 0) [] "١٠٠٠".toList :=
    costs_of_capture (by decide) (by decide +kernel)
  have hnumber : amountNumber "١٠٠٠".toList = 1000 := by decide +kernel
  have htarget : targetAmount easternAmount = none := by decide +kernel
  have hprincipal : principalAmount easternAmount = some ⟨1, "١٠٠٠".toList⟩ := by decide +kernel
  have hplain : ¬ PlainDigits "١٠٠٠".toList := by decide +kernel
  refine ⟨?_, ⟨⟨_, hcosts⟩, fun j b _ => Nat.zero_le j⟩, hnumber, ?_⟩
  · obtain ⟨e, he, hcaptured⟩ := exists_reached easternAmount
    rw [htarget] at hcaptured
    cases hcaptured
    exact he
  · have hcaptured : Captured easternAmount.toList (principalAmount easternAmount)
        (some (0, "١٠٠٠".toList)) := by
      rw [hprincipal]
      exact .some ⟨_, hcosts, rfl⟩
    have hstores := stores_of_captured hcaptured
      (hwords ▸ get?_principal "" (some easternAmount))
    refine fun hkeeps => ?_
    rcases hstores.keeps_iff.mp hkeeps _ rfl with ⟨hdigits, -⟩ | hsmall
    · exact hplain hdigits
    · rw [hnumber] at hsmall
      linarith [underflowBound_lt_one]

end Stored

end EquationTutor.Reading
