import EquationTutor.Proofs.Pattern.Leftmost
import EquationTutor.Proofs.Pattern.Words
import EquationTutor.Proofs.Polynomial.Captures
import EquationTutor.Reading.Shape

namespace EquationTutor.Reading

open Pattern PolynomialText

/-- A fractional part, which may be left out. -/
def Fraction (cs : List Char) : Prop :=
  cs = [] ∨ ∃ ds, cs = '.' :: ds ∧ Digits ds

/-- A digit, then digits and commas, then a fractional part. -/
def Amount (cs : List Char) : Prop :=
  ∃ d whole fraction, cs = d :: (whole ++ fraction) ∧ Text.isDigit d = true ∧
    (∀ c ∈ whole, Text.isDigit c = true ∨ c = ',') ∧ Fraction fraction

/-- The longest amount at the start of a text. -/
structure IsAmountOf (a cs : List Char) : Prop where
  isAmount : Amount a
  here : a <+: cs
  longest : ∀ b, Amount b → b <+: cs → b.length ≤ a.length

/-- A dollar sign, a gap without anything but blanks, and an amount. -/
structure Costs (cs gap a : List Char) : Prop where
  gap_blank : AllBlank gap
  split : ∃ rest, cs = '$' :: (gap ++ rest) ∧ IsAmountOf a rest

variable {before taken rest cs gap a : List Char} {g : Groups}

theorem takes_amount : amount.Takes before taken rest ↔ Amount taken := by
  simp only [amount, cat, takes_seq, takes_one, takes_many, takes_optional, takes_char,
    takes_digits, Bool.or_eq_true, beq_iff_eq]
  constructor
  · rintro ⟨_, _, rfl, ⟨d, rfl, hd⟩, whole, _, rfl, hwhole, ⟨_, ds, rfl, rfl, hds⟩ | rfl⟩
    · exact ⟨d, whole, '.' :: ds, rfl, hd, hwhole, .inr ⟨ds, rfl, hds⟩⟩
    · exact ⟨d, whole, [], rfl, hd, hwhole, .inl rfl⟩
  · rintro ⟨d, whole, _, rfl, hd, hwhole, rfl | ⟨ds, rfl, hds⟩⟩
    · exact ⟨[d], _, rfl, ⟨d, rfl, hd⟩, whole, [], rfl, hwhole, .inr rfl⟩
    · exact ⟨[d], _, rfl, ⟨d, rfl, hd⟩, whole, _, rfl, hwhole, .inl ⟨['.'], ds, rfl, rfl, hds⟩⟩

theorem takes_money : Shape.money.Takes before taken rest ↔
    ∃ gap a, taken = '$' :: (gap ++ a) ∧ AllBlank gap ∧ Amount a := by
  simp only [Shape.money, cat, takes_seq, takes_char, takes_blanks, takes_group, takes_amount]
  constructor
  · rintro ⟨_, _, rfl, rfl, gap, a, rfl, hgap, ha⟩
    exact ⟨gap, a, rfl, hgap, ha⟩
  · rintro ⟨gap, a, rfl, hgap, ha⟩
    exact ⟨['$'], gap ++ a, rfl, rfl, gap, a, rfl, hgap, ha⟩

theorem Amount.exists_digit (h : Amount a) : ∃ d ds, a = d :: ds ∧ Text.isDigit d = true := by
  obtain ⟨d, whole, fraction, rfl, hd, -⟩ := h
  exact ⟨d, whole ++ fraction, rfl, hd⟩

theorem IsAmountOf.not_blank_head? (h : IsAmountOf a cs) :
    ∀ c ∈ cs.head?, Text.isBlank c = false := by
  obtain ⟨d, ds, rfl, hd⟩ := h.isAmount.exists_digit
  obtain ⟨left, rfl⟩ := h.here
  intro c hc
  obtain rfl : d = c := by simpa using hc
  exact Text.not_blank_of_isDigit hd

theorem IsAmountOf.unique {a' : List Char} (h : IsAmountOf a cs) (h' : IsAmountOf a' cs) :
    a = a' := by
  obtain ⟨left, hleft⟩ := h.here
  obtain ⟨left', hleft'⟩ := h'.here
  have hlength : a.length = a'.length :=
    le_antisymm (h'.longest a h.isAmount h.here) (h.longest a' h'.isAmount h'.here)
  exact (List.append_inj (hleft.trans hleft'.symm) hlength).1

theorem Costs.unique {gap' a' : List Char} (h : Costs cs gap a) (h' : Costs cs gap' a') :
    gap = gap' ∧ a = a' := by
  obtain ⟨hgap, rest, rfl, ha⟩ := h
  obtain ⟨hgap', rest', heq, ha'⟩ := h'
  obtain ⟨rfl, rfl⟩ : gap = gap' ∧ rest = rest' :=
    append_inj_of_first (List.cons.inj heq).2 (fun c hc => by simp [hgap c hc])
      (fun c hc => by simp [hgap' c hc]) ha.not_blank_head? ha'.not_blank_head?
  exact ⟨rfl, ha.unique ha'⟩

theorem length_le_takeWhile {accepts : Char → Bool} {xs ys : List Char}
    (hxs : ∀ c ∈ xs, accepts c = true) (h : xs <+: ys) :
    xs.length ≤ (ys.takeWhile accepts).length := by
  obtain ⟨zs, rfl⟩ := h
  rw [List.takeWhile_append_of_pos hxs, List.length_append]
  exact Nat.le_add_right _ _

theorem not_accepts_head?_dropWhile (accepts : Char → Bool) (xs : List Char) :
    ∀ c ∈ (xs.dropWhile accepts).head?, accepts c = false := by
  intro c hc
  have := List.head?_dropWhile_not accepts xs
  rw [Option.mem_def.mp hc] at this
  simpa using this

theorem exists_best_fraction (cs : List Char) : ∃ fraction left, cs = fraction ++ left ∧
    Fraction fraction ∧ (∀ f, Fraction f → f <+: cs → f.length ≤ fraction.length) ∧
    ∀ before g, (optional (cat [char '.', digits])).Best before fraction left g g := by
  by_cases hpoint : ∃ e rest, cs = '.' :: e :: rest ∧ Text.isDigit e = true
  · obtain ⟨e, rest, rfl, he⟩ := hpoint
    have hdigits : Digits ((e :: rest).takeWhile Text.isDigit) := by
      refine ⟨?_, fun c hc => List.mem_takeWhile_imp hc⟩
      rw [List.takeWhile_cons_of_pos he]
      exact List.cons_ne_nil _ _
    refine ⟨'.' :: (e :: rest).takeWhile Text.isDigit, (e :: rest).dropWhile Text.isDigit, ?_,
      .inr ⟨_, rfl, hdigits⟩, ?_, fun before g => ?_⟩
    · rw [List.cons_append, List.takeWhile_append_dropWhile]
    · rintro f (rfl | ⟨ds, rfl, hds⟩) hf
      · exact Nat.zero_le _
      · exact Nat.succ_le_succ (length_le_takeWhile hds.2 (List.cons_prefix_cons.mp hf).2)
    · exact best_optional (best_seq (s := ['.']) best_char
        (best_digits hdigits (not_accepts_head?_dropWhile _ _)))
  · have hnone : ∀ ds rest, Digits ds → cs ≠ '.' :: (ds ++ rest) := by
      rintro ds rest ⟨hne, hds⟩ rfl
      obtain ⟨e, ds, rfl⟩ := List.exists_cons_of_ne_nil hne
      exact hpoint ⟨e, ds ++ rest, rfl, hds e List.mem_cons_self⟩
    refine ⟨[], cs, rfl, .inl rfl, ?_, fun before g => best_optional_of_refuses ?_⟩
    · rintro f (rfl | ⟨ds, rfl, hds⟩) ⟨rest, hrest⟩
      · exact le_rfl
      · exact absurd hrest.symm (hnone ds rest hds)
    · rintro s t hst ⟨_, ds, rfl, hchar, hds⟩
      obtain rfl := takes_char.mp hchar
      exact hnone ds t (takes_digits.mp hds) (by rw [hst]; rfl)

theorem exists_best_amount {d : Char} (hd : Text.isDigit d = true) (cs : List Char) :
    ∃ a left, d :: cs = a ++ left ∧ IsAmountOf a (d :: cs) ∧
      ∀ before g, amount.Best before a left g g := by
  let inWhole : Char → Bool := fun c => Text.isDigit c || c == ','
  have hpoint : inWhole '.' = false := by decide
  obtain ⟨fraction, left, hsplit, hfraction, hlongest, hbest⟩ :=
    exists_best_fraction (cs.dropWhile inWhole)
  have hcs : cs.takeWhile inWhole ++ (fraction ++ left) = cs := by
    rw [← hsplit, List.takeWhile_append_dropWhile]
  refine ⟨d :: (cs.takeWhile inWhole ++ fraction), left, ?_, ⟨?_, ⟨left, ?_⟩, ?_⟩,
    fun before g => ?_⟩
  · rw [List.cons_append, List.append_assoc, hcs]
  · refine ⟨d, _, fraction, rfl, hd, fun c hc => ?_, hfraction⟩
    simpa [inWhole] using List.mem_takeWhile_imp hc
  · rw [List.cons_append, List.append_assoc, hcs]
  · rintro b ⟨e, whole, f, rfl, -, hwhole, hf⟩ hb
    have hwhole : ∀ c ∈ whole, inWhole c = true := fun c hc => by simpa [inWhole] using hwhole c hc
    have hshorter : whole ++ f <+: cs := (List.cons_prefix_cons.mp hb).2
    refine Nat.succ_le_succ ?_
    rw [List.length_append, List.length_append]
    rcases hf with rfl | ⟨ds, rfl, hds⟩
    · rw [List.append_nil] at hshorter
      exact (length_le_takeWhile hwhole hshorter).trans (Nat.le_add_right _ _)
    · obtain ⟨rest, rfl⟩ := hshorter
      have hlonger : ('.' :: ds).length ≤ fraction.length := by
        refine hlongest _ (.inr ⟨ds, rfl, hds⟩) ⟨rest, ?_⟩
        rw [List.append_assoc, List.dropWhile_append_of_pos hwhole, List.cons_append,
          List.dropWhile_cons_of_neg (by simp [hpoint])]
      have hrun : ((whole ++ '.' :: ds) ++ rest).takeWhile inWhole = whole := by
        rw [List.append_assoc, List.takeWhile_append_of_pos hwhole, List.cons_append,
          List.takeWhile_cons_of_neg (by simp [hpoint]), List.append_nil]
      rw [hrun]
      exact Nat.add_le_add_left hlonger _
  · have hrun : (many inWhole).Best (before ++ [d]) (cs.takeWhile inWhole) (fraction ++ left) g g :=
      best_repeated (fun c hc => List.mem_takeWhile_imp hc)
        (by rw [← hsplit]; exact not_accepts_head?_dropWhile _ _) (Nat.zero_le _)
    exact best_seq (s := [d]) (best_one hd) (best_seq hrun (hbest _ g))

theorem IsAmountOf.best (h : IsAmountOf a (a ++ rest)) : amount.Best before a rest g g := by
  obtain ⟨d, ds, rfl, hd⟩ := h.isAmount.exists_digit
  obtain ⟨a, left, hsplit, ha, hbest⟩ := exists_best_amount hd (ds ++ rest)
  obtain rfl := h.unique ha
  have hsplit : d :: ds ++ rest = d :: ds ++ left := hsplit
  obtain rfl := List.append_cancel_left hsplit
  exact hbest before g

theorem Amount.exists_isAmountOf (h : Amount a) (rest : List Char) :
    ∃ b, IsAmountOf b (a ++ rest) := by
  obtain ⟨d, ds, rfl, hd⟩ := h.exists_digit
  obtain ⟨b, -, -, hb, -⟩ := exists_best_amount hd (ds ++ rest)
  exact ⟨b, hb⟩

theorem Costs.exists_rest (h : Costs cs gap a) :
    ∃ rest, cs = '$' :: (gap ++ (a ++ rest)) ∧ IsAmountOf a (a ++ rest) := by
  obtain ⟨-, left, rfl, ha⟩ := h
  obtain ⟨rest, rfl⟩ := ha.here
  exact ⟨rest, rfl, ha⟩

theorem exists_costs_of_takes (h : Shape.money.Takes before taken rest) :
    ∃ gap a, Costs (taken ++ rest) gap a := by
  obtain ⟨gap, b, rfl, hgap, hb⟩ := takes_money.mp h
  obtain ⟨a, ha⟩ := hb.exists_isAmountOf rest
  exact ⟨gap, a, hgap, b ++ rest, by simp, ha⟩

theorem best_money (hgap : AllBlank gap) (ha : IsAmountOf a (a ++ rest)) :
    Shape.money.Best before ('$' :: (gap ++ a)) rest g
      (g ++ [(1, ⟨before.length + 1 + gap.length, a⟩)]) := by
  have hblanks : blanks.Best (before ++ ['$']) gap (a ++ rest) g g :=
    best_blanks hgap ha.not_blank_head?
  have hgroup : (group 1 amount).Best (before ++ ['$'] ++ gap) a rest g _ := best_group ha.best
  rw [List.length_append, List.length_append] at hgroup
  exact best_seq (s := ['$']) best_char (best_seq hblanks hgroup)

theorem capture_matchAt_money_iff {c : Capture} :
    (Shape.money.matchAt (Cursor.after before cs)).bind (·.capture? 1) = some c ↔
      ∃ gap a, Costs cs gap a ∧ c = ⟨before.length + 1 + gap.length, a⟩ := by
  have hcapture {gap a : List Char} (h : Costs cs gap a) :
      (Shape.money.matchAt (Cursor.after before cs)).bind (·.capture? 1) =
        some ⟨before.length + 1 + gap.length, a⟩ := by
    obtain ⟨rest, rfl, ha⟩ := h.exists_rest
    have hbest : Shape.money.Best before ('$' :: (gap ++ a)) rest [] _ :=
      best_money h.gap_blank ha
    have hat := matchAt_of_best hbest
    rw [List.cons_append, List.append_assoc] at hat
    rw [hat]
    rfl
  constructor
  · intro h
    have hplace : ¬ Shape.money.Refuses before cs := by
      intro hrefuses
      rw [matchAt_eq_none_iff.mpr hrefuses] at h
      cases h
    obtain ⟨taken, rest, g, rfl, hbest⟩ := exists_best_of_not_refuses hplace
    obtain ⟨gap, a, hcosts⟩ := exists_costs_of_takes (takes_of_best hbest)
    exact ⟨gap, a, hcosts, Option.some.inj (h.symm.trans (hcapture hcosts))⟩
  · rintro ⟨gap, a, hcosts, rfl⟩
    exact hcapture hcosts

/-- No amount begins inside another, since each begins with its dollar sign. -/
theorem separate_money : Shape.money.Separate := by
  intro before taken rest h
  obtain ⟨_, inside, rfl, hsign, hinside⟩ := h
  obtain rfl := takes_char.mp hsign
  have hnot : '$' ∉ inside := notMem_of_takes (by decide) hinside
  refine ⟨List.cons_ne_nil _ _, fun s t hst hs ht u left hu htakes => hnot ?_⟩
  obtain ⟨d, s, rfl⟩ := List.exists_cons_of_ne_nil hs
  obtain ⟨e, t, rfl⟩ := List.exists_cons_of_ne_nil ht
  obtain ⟨gap, a, rfl, -⟩ := takes_money.mp htakes
  obtain rfl : e = '$' := (List.cons.inj hu).1
  obtain rfl : inside = s ++ '$' :: t := (List.cons.inj hst).2
  exact List.mem_append_right s List.mem_cons_self

end EquationTutor.Reading
