import EquationTutor.Proofs.Polynomial.Captures

namespace EquationTutor

open PolynomialText Reading Pattern

namespace PolynomialText

theorem forall_head?_append {P : Char → Prop} {a b : List Char} (ha : ∀ c ∈ a.head?, P c)
    (hb : ∀ c ∈ b.head?, P c) : ∀ c ∈ (a ++ b).head?, P c := by
  cases a with
  | nil => exact hb
  | cons c a => exact fun d hd => ha d hd

theorem forall_getLast?_append {P : Char → Prop} {a b : List Char}
    (ha : ∀ c ∈ a.getLast?, P c) (hb : ∀ c ∈ b.getLast?, P c) :
    ∀ c ∈ (a ++ b).getLast?, P c := by
  intro c hc
  rw [List.getLast?_append] at hc
  cases hlast : b.getLast? with
  | none => exact ha c (by simpa [hlast] using hc)
  | some d =>
      obtain rfl : d = c := by simpa [hlast] using hc
      exact hb d hlast

theorem NumberEnds.append {a b : List Char} (ha : NumberEnds a) (hb : NumberEnds b) :
    NumberEnds (a ++ b) :=
  forall_head?_append ha hb

theorem numberEnds_of_eq_space {g : List Char} (h : ∀ c ∈ g, c = ' ') : NumberEnds g := by
  intro c hc
  rw [h c (List.mem_of_mem_head? hc)]
  decide

theorem numberEnds_variable {gap : List Char} (hgap : ∀ c ∈ gap, c = ' ') {v : Char}
    (hv : v ∈ numberEnders) (rest : List Char) : NumberEnds (gap ++ v :: rest) := by
  refine (numberEnds_of_eq_space hgap).append fun c hc => ?_
  obtain rfl : v = c := by simpa using hc
  exact hv

theorem numberEnds_of_isSign {c : Char} (h : IsSign c) (cs : List Char) :
    NumberEnds (c :: cs) := by
  intro d hd
  obtain rfl : c = d := by simpa using hd
  rcases h with rfl | rfl <;> decide

theorem eq_nil_or_exists_sign {ts : List Term} (hts : ∀ t ∈ ts, t.sign.isSome = true)
    {cs : List Char} (h : Spelled (· == ' ') (ts.flatMap Term.tokens) cs) :
    ts = [] ∧ cs = [] ∨ ∃ c rest, cs = c :: rest ∧ IsSign c := by
  cases ts with
  | nil => exact Or.inl ⟨rfl, h⟩
  | cons t ts =>
      obtain ⟨s, hs⟩ := Option.isSome_iff_exists.mp (hts t List.mem_cons_self)
      rw [List.flatMap_cons, Term.tokens, Term.lead, hs] at h
      obtain ⟨g, rest, rfl, -, -⟩ := h
      exact Or.inr ⟨s.char, g ++ rest, rfl, s.char_mem⟩

variable {before tail : List Term} {t : Term} {cs : List Char}

theorem spelled_power_cases (h : Spelled (· == ' ') t.power.tokens cs) :
    t.power = .constant ∧ cs = [] ∨ cs.head? = some 'x' := by
  cases hp : t.power with
  | constant =>
      rw [hp] at h
      exact Or.inl ⟨rfl, h⟩
  | linear =>
      rw [hp] at h
      obtain ⟨g, rfl, -⟩ := spelled_linear h
      exact Or.inr rfl
  | square =>
      rw [hp] at h
      obtain ⟨g, g', g'', rfl, -⟩ := spelled_square h
      exact Or.inr rfl

namespace TermAt

variable (l : TermAt before t tail cs)
include l

theorem numberEnds (htail : ∀ u ∈ tail, u.sign.isSome = true) {rest : List Char}
    (hrest : NumberEnds rest) : NumberEnds (l.gap ++ (l.power ++ (l.back ++ rest))) := by
  refine (numberEnds_of_eq_space l.leads.gap_blank).append (NumberEnds.append ?_
    (NumberEnds.append ?_ hrest))
  · intro c hc
    rcases spelled_power_cases l.spelled_power with ⟨-, h⟩ | h
    · rw [h] at hc
      cases hc
    · obtain rfl : 'x' = c := by simpa [h] using hc
      decide
  · rcases eq_nil_or_exists_sign htail l.spelled_back with ⟨-, h⟩ | ⟨c, rest, h, hc⟩
    · rw [h]
      exact fun c hc => by cases hc
    · rw [h]
      exact numberEnds_of_isSign hc rest

theorem head?_of_factor_eq_none (h : t.factor = none) (rest : List Char) :
    (l.gap ++ (l.power ++ (l.back ++ rest))).head? = some 'x' := by
  rw [l.leads.gap_eq_nil h, List.nil_append]
  rcases spelled_power_cases l.spelled_power with ⟨hp, -⟩ | hx
  · have := t.isSome_factor hp
    rw [h] at this
    cases this
  · rw [List.head?_append, hx]
    rfl

end TermAt

theorem isWordChar_x : Text.isWordChar 'x' = true := by
  decide +kernel

theorem not_isWordChar_of_mem :
    ∀ c ∈ ' ' :: '+' :: '-' :: relationChars, Text.isWordChar c = false :=
  List.all_iff_forall_prop.mp (by decide +kernel)

theorem not_isWordChar_behind (hsigned : ∀ u ∈ tail, u.sign.isSome = true)
    (hcs : Spelled (· == ' ') (tail.flatMap Term.tokens) cs) {gap rest : List Char}
    (hgap : ∀ c ∈ gap, c = ' ') (hrest : ∀ c ∈ rest.head?, c ∈ relationChars) :
    ∀ c ∈ (gap ++ (cs ++ rest)).head?, Text.isWordChar c = false := by
  refine forall_head?_append ?_ (forall_head?_append ?_ fun c hc =>
    not_isWordChar_of_mem c (by simp [hrest c hc]))
  · intro c hc
    rw [hgap c (List.mem_of_mem_head? hc)]
    exact not_isWordChar_of_mem ' ' (by simp)
  · rcases eq_nil_or_exists_sign hsigned hcs with ⟨-, rfl⟩ | ⟨c, rest, rfl, hc⟩
    · simp
    · intro d hd
      obtain rfl : c = d := by simpa using hd
      exact not_isWordChar_of_mem c (by rcases hc with rfl | rfl <;> simp)

theorem best_boundary_x {rest : List Char} (hrest : ∀ c ∈ rest.head?, Text.isWordChar c = false)
    (chars : List Char) (g : Groups) : boundary.Best (chars ++ ['x']) [] rest g g := by
  refine best_boundary ?_
  cases hhead : rest.head? with
  | none => simp [isWordChar_x]
  | some c => simp [isWordChar_x, hrest c hhead]

theorem Term.Leads.exists_cons {lead gap : List Char} (h : t.Leads lead gap)
    (hsome : t.sign.isSome = true ∨ t.factor.isSome = true) :
    ∃ c rest, lead = c :: rest ∧ Text.isBlank c = false := by
  obtain ⟨g, rfl, -, hnil⟩ := h.exists_eq
  cases hs : t.sign with
  | some s =>
      refine ⟨s.char, g ++ t.digits, by simp [Term.mark, hs], ?_⟩
      cases s <;> decide
  | none =>
      obtain ⟨n, hn⟩ := Option.isSome_iff_exists.mp (hsome.resolve_left (by simp [hs]))
      obtain ⟨d, ds, hds, hd⟩ := n.exists_chars_cons
      refine ⟨d, ds, by simp [Term.mark, Term.digits, hs, hn, hnil hs, hds], ?_⟩
      have hall : ∀ d ∈ '.' :: digitChars, Text.isBlank d = false :=
        List.all_iff_forall_prop.mp (by decide)
      exact hall d hd

theorem Term.Leads.head?_append {lead gap : List Char} (h : t.Leads lead gap)
    (hsome : t.sign.isSome = true ∨ t.factor.isSome = true) (rest : List Char) :
    ∀ c ∈ (lead ++ rest).head?, Text.isBlank c = false := by
  obtain ⟨d, ds, hlead, hd⟩ := h.exists_cons hsome
  intro c hc
  obtain rfl : d = c := by simpa [hlead] using hc
  exact hd

variable {chars rest : List Char} {g : Groups}

theorem best_constantPart (hsigned : ∀ u ∈ tail, u.sign.isSome = true)
    (htail : tail = [] ∨ ∃ k, tail = [k] ∧ k.power = .constant)
    (hcs : Spelled (· == ' ') (tail.flatMap Term.tokens) cs) (hrest : NumberEnds rest)
    (hsign : ∀ c ∈ rest.head?, ¬ IsSign c) (i : Nat) (chars : List Char) :
    ∃ lead gap, cs = lead ++ gap ∧ (∀ c ∈ gap, c = ' ') ∧ (∀ k ∈ tail, k.Leads lead gap) ∧
      (optional (group i constantTerm)).Best chars lead (gap ++ rest) g
        (g ++ tail.map fun _ => (i, ⟨chars.length, lead⟩)) := by
  rcases htail with rfl | ⟨k, rfl, hk⟩
  · obtain rfl : cs = [] := hcs
    refine ⟨[], [], rfl, by simp, by simp, ?_⟩
    rw [List.map_nil, List.append_nil]
    exact best_optional_of_refuses (refuses_seq (refuses_sign hsign))
  · rw [List.flatMap_singleton] at hcs
    obtain ⟨lead, gap, power, rfl, hleads, hpower⟩ := k.exists_leads_of_spelled hcs
    rw [hk] at hpower
    obtain rfl : power = [] := hpower
    refine ⟨lead, gap, by simp, hleads.gap_blank, by simpa using hleads, ?_⟩
    exact best_optional (best_group (best_constantTerm hleads
      ((numberEnds_of_eq_space hleads.gap_blank).append hrest) (hsigned k (by simp))
      (k.isSome_factor hk)))

/-- The end of both shapes: a constant, the operator and a number. -/
def behindX (i j k : Nat) : Pattern :=
  cat [blanks, optional (group i constantTerm), blanks, group j relationSign, blanks,
    group k signedNumber]

end PolynomialText

theorem Relation.head_operator (r : Relation) (rest : List Char) :
    ∀ c ∈ (r.operator.toList ++ rest).head?, c ∈ relationChars ∧ c ∈ numberEnders := by
  intro c hc
  have hop : ∃ d ∈ relationChars, (r.operator.toList ++ rest).head? = some d := by
    cases r <;> exact ⟨_, by decide, rfl⟩
  obtain ⟨d, hd, hhead⟩ := hop
  obtain rfl : d = c := by simpa [hhead] using hc
  have hall : ∀ c ∈ relationChars, c ∈ numberEnders := List.all_iff_forall_prop.mp (by decide)
  exact ⟨hd, hall d hd⟩

theorem PolynomialText.numberEnds_operator (r : Relation) (rest : List Char) :
    NumberEnds (r.operator.toList ++ rest) :=
  fun c hc => (r.head_operator rest c hc).2

theorem PolynomialText.Side.exists_first_lead {s : Side} {cs : List Char}
    (h : Spelled (· == ' ') s.tokens cs) :
    ∃ lead gap rest, cs = lead ++ (gap ++ rest) ∧ s.first.Leads lead gap ∧
      NumberEnds (gap ++ rest) := by
  obtain ⟨l, hfront⟩ := exists_firstAt h
  have hends := l.numberEnds s.isSome_sign (show NumberEnds [] by simp [NumberEnds])
  rw [List.append_nil] at hends
  exact ⟨l.lead, l.gap, l.power ++ l.back, by simpa [hfront] using l.text_eq, l.leads, hends⟩

namespace PolynomialText

section Behind

variable {r : Relation} {side : Side} {spaces right : List Char}
  (hspaces : ∀ c ∈ spaces, c = ' ') (hright : Spelled (· == ' ') side.tokens right)
  (hnumber : side.first.factor.isSome = true)
include hspaces hright hnumber

theorem best_rightNumber (k : Nat) (chars : List Char) (g : Groups) :
    ∃ taken rest, ∃ number : Capture, spaces ++ right = taken ++ rest ∧
      (cat [blanks, group k signedNumber]).Best chars taken rest g (g ++ [(k, number)]) ∧
      ∃ gap, side.first.Leads number.chars gap := by
  obtain ⟨lead, gap, rest, hright, hleads, hends⟩ := Side.exists_first_lead hright
  exact ⟨spaces ++ lead, gap ++ rest, ⟨(chars ++ spaces).length, lead⟩, by simp [hright],
    best_seq (best_blanks (allBlank_of_eq_space hspaces) (hleads.head?_append (Or.inr hnumber) _))
      (best_group (best_signedNumber hleads hends hnumber)), gap, hleads⟩

theorem best_operator (j k : Nat) (chars : List Char) (g : Groups) :
    ∃ taken rest, ∃ operator number : Capture,
      r.operator.toList ++ (spaces ++ right) = taken ++ rest ∧
      (cat [group j relationSign, blanks, group k signedNumber]).Best chars taken rest g
        (g ++ [(j, operator), (k, number)]) ∧
      operator.text = r.operator ∧ ∃ gap, side.first.Leads number.chars gap := by
  obtain ⟨taken, rest, number, hsplit, hbest, hleads⟩ :=
    best_rightNumber hspaces hright hnumber k (chars ++ r.operator.toList)
      (g ++ [(j, ⟨chars.length, r.operator.toList⟩)])
  rw [List.append_assoc] at hbest
  refine ⟨r.operator.toList ++ taken, rest, _, number, by rw [hsplit, List.append_assoc],
    best_seq (best_group (best_relationSign ?_)) hbest, String.ofList_toList, hleads⟩
  intro c hc
  rw [← hsplit] at hc
  rintro rfl
  have hmem : '=' ∈ spaces ++ right := List.mem_of_mem_head? hc
  rcases List.mem_append.mp hmem with h | h
  · exact absurd (hspaces _ h) (by decide)
  · exact notMem_relationChars_of_mem_side _
      (mem_side_of_spelled (fun _ ht => (Side.mem_tokens ht).2) hright _ h) (by decide)

theorem best_behindX {tail : List Term} (hsigned : ∀ u ∈ tail, u.sign.isSome = true)
    (htail : tail = [] ∨ ∃ k, tail = [k] ∧ k.power = .constant) {gap cs : List Char}
    (hgap : ∀ c ∈ gap, c = ' ') (hcs : Spelled (· == ' ') (tail.flatMap Term.tokens) cs)
    (i j k : Nat) (chars : List Char) (g : Groups) :
    ∃ taken rest, ∃ constant operator number : Capture,
      gap ++ (cs ++ (r.operator.toList ++ (spaces ++ right))) = taken ++ rest ∧
      (behindX i j k).Best chars taken rest g (g ++ (tail.map (fun _ => (i, constant)) ++
        [(j, operator), (k, number)])) ∧
      (∀ u ∈ tail, ∃ gap, u.Leads constant.chars gap) ∧
      operator.text = r.operator ∧ ∃ gap, side.first.Leads number.chars gap := by
  have hops := r.head_operator (spaces ++ right)
  obtain ⟨lead, sp, rfl, hsp, hleads, hconst⟩ := best_constantPart (g := g) hsigned htail hcs
    (fun c hc => (hops c hc).2) (fun c hc => (not_blank_of_mem_relationChars c (hops c hc).1).2)
    i (chars ++ gap)
  obtain ⟨taken, rest, operator, number, hoperator, hbest, htext, hnum⟩ :=
    best_operator (r := r) hspaces hright hnumber j k (chars ++ gap ++ lead ++ sp)
      (g ++ tail.map fun _ => (i, ⟨(chars ++ gap).length, lead⟩))
  rw [List.append_assoc g] at hbest
  have hsolid (c : Char) (hc : c ∈ (taken ++ rest).head?) : Text.isBlank c = false := by
    rw [← hoperator] at hc
    exact (not_blank_of_mem_relationChars c (hops c hc).1).1
  refine ⟨gap ++ (lead ++ (sp ++ taken)), rest, ⟨(chars ++ gap).length, lead⟩, operator,
    number, by simp [hoperator],
    best_seq (best_blanks (allBlank_of_eq_space hgap) ?_) (best_seq ?_
      (best_seq (best_blanks (allBlank_of_eq_space hsp) hsolid) hbest)),
    fun u hu => ⟨sp, hleads u hu⟩, htext, hnum⟩
  · intro c hc
    rcases htail with rfl | ⟨u, rfl, hu⟩
    · have hcs : lead ++ sp = [] := hcs
      obtain ⟨rfl, rfl⟩ := List.append_eq_nil_iff.mp hcs
      exact hsolid c hc
    · rw [List.append_assoc] at hc
      exact (hleads u (by simp)).head?_append (Or.inl (hsigned u (by simp))) _ c hc
  · rwa [hoperator, ← List.append_assoc sp] at hconst

end Behind

end PolynomialText

namespace PolynomialText

/-- Blanks, and then at most one sign. -/
def SignedQuiet (cs : List Char) : Prop :=
  ∃ g r, cs = g ++ r ∧ AllBlank g ∧ SignThenQuiet r

theorem SignedQuiet.outline_eq {cs : List Char} (h : SignedQuiet cs) :
    outline cs = [] ∨ ∃ c, IsSign c ∧ outline cs = [c] := by
  obtain ⟨g, r, rfl, hg, hr⟩ := h
  rw [outline_append, outline_of_quiet (quiet_of_allBlank hg), List.nil_append]
  exact hr.outline_eq

theorem SignedQuiet.quiet_or_isSign {cs : List Char} (h : SignedQuiet cs) :
    ∀ c ∈ cs, Quiet c ∨ IsSign c := by
  obtain ⟨g, _, rfl, hg, s, q, rfl, hs, hq⟩ := h
  intro c hc
  simp only [List.mem_append] at hc
  rcases hc with hc | hc | hc
  · exact Or.inl (quiet_of_allBlank hg c hc)
  · rcases hs with rfl | ⟨d, rfl, hd⟩
    · cases hc
    · obtain rfl := List.mem_singleton.mp hc
      exact Or.inr hd
  · exact Or.inl (hq c hc)

theorem SignedQuiet.notMem {cs : List Char} (h : SignedQuiet cs) {d : Char}
    (hd : d ∈ ['x', '^', '=', '<', '>', '!']) : d ∉ cs := by
  intro hmem
  have hall : ∀ d ∈ ['x', '^', '=', '<', '>', '!'], ¬ Quiet d ∧ ¬ IsSign d :=
    List.all_iff_forall_prop.mp (by decide)
  rcases h.quiet_or_isSign d hmem with h | h
  · exact (hall d hd).1 h
  · exact (hall d hd).2 h

theorem SignedQuiet.notMem_relationChars {cs : List Char} (h : SignedQuiet cs) :
    ∀ c ∈ cs, c ∉ relationChars := by
  intro c hc hrelation
  have hsub : ∀ c ∈ relationChars, c ∈ ['x', '^', '=', '<', '>', '!'] :=
    List.all_iff_forall_prop.mp (by decide)
  exact h.notMem (hsub c hrelation) hc

theorem exists_digit_of_takes_signedNumber {before taken rest : List Char}
    (h : signedNumber.Takes before taken rest) : ∃ mark gap point digit left,
      taken = mark ++ gap ++ point ++ digit :: left ∧ (mark = [] ∨ mark = ['+'] ∨ mark = ['-']) ∧
      AllBlank gap ∧ (point = [] ∨ point = ['.']) ∧ Text.isDigit digit = true := by
  simp only [signedNumber, cat, takes_seq, takes_optional, takes_sign, takes_blanks,
    takes_number] at h
  obtain ⟨mark, _, rfl, hmark, gap, _, rfl, hgap, n, o, rfl, hn, -⟩ := h
  have hdigit : ∃ point digit left, n = point ++ digit :: left ∧ (point = [] ∨ point = ['.']) ∧
      Text.isDigit digit = true := by
    rcases hn with ⟨whole, fraction, rfl, ⟨hne, hdigits⟩, -⟩ | ⟨ds, rfl, hne, hdigits⟩
    · obtain ⟨d, ds, rfl⟩ := List.exists_cons_of_ne_nil hne
      exact ⟨[], d, ds ++ fraction, rfl, Or.inl rfl, hdigits d List.mem_cons_self⟩
    · obtain ⟨d, ds, rfl⟩ := List.exists_cons_of_ne_nil hne
      exact ⟨['.'], d, ds, rfl, Or.inr rfl, hdigits d List.mem_cons_self⟩
  obtain ⟨point, digit, left, rfl, hpoint, hdigit⟩ := hdigit
  refine ⟨mark, gap, point, digit, left ++ o, by simp, ?_, hgap, hpoint, hdigit⟩
  rcases hmark with (h | h) | h
  · exact Or.inr (Or.inl h)
  · exact Or.inr (Or.inr h)
  · exact Or.inl h

end PolynomialText

namespace PolynomialRelation.Written

variable {p : PolynomialRelation} {text : List Char} (w : p.Written text)
include w

theorem isSome_factor_of_takes {o g n before left rest : List Char}
    (ho : ∀ c ∈ o, c ∈ relationChars) (hg : AllBlank g) (hn : signedNumber.Takes before n left)
    (h : o ++ (g ++ (n ++ rest)) = p.relation.operator.toList ++ (w.spaces ++ w.right)) :
    p.right.first.factor.isSome = true := by
  obtain ⟨mark, gap, point, digit, left, rfl, hmark, hgap, hpoint, hdigit⟩ :=
    exists_digit_of_takes_signedNumber hn
  have hmarkchars : ∀ c ∈ mark, c ∉ relationChars := by
    rcases hmark with rfl | rfl | rfl <;> simp [relationChars]
  have hpointchars : ∀ c ∈ point, c ∉ relationChars := by
    rcases hpoint with rfl | rfl <;> simp [relationChars]
  have hnumber : ∀ c ∈ g ++ (mark ++ (gap ++ (point ++ [digit]))), c ∉ relationChars := by
    intro c hc
    simp only [List.mem_append, List.mem_singleton] at hc
    rcases hc with hc | hc | hc | hc | rfl
    · exact (quiet_of_allBlank hg c hc).notMem_relationChars
    · exact hmarkchars c hc
    · exact (quiet_of_allBlank hgap c hc).notMem_relationChars
    · exact hpointchars c hc
    · exact (quiet_of_isDigit hdigit).notMem_relationChars
  have hop : o ++ ((g ++ (mark ++ (gap ++ (point ++ [digit])))) ++ (left ++ rest)) =
      p.relation.operator.toList ++ (w.spaces ++ w.right) := by
    rw [← h]
    simp
  -- the operator and the sign that was matched are the same
  obtain ⟨-, hright⟩ := append_inj_of_first (P := fun c => c ∉ relationChars) hop
    (fun c hc => not_not_intro (ho c hc))
    (fun c hc => not_not_intro (p.mem_relationChars c hc)) (by
      intro c hc
      rw [List.head?_append_of_ne_nil _ (by simp)] at hc
      exact hnumber c (List.mem_of_mem_head? hc))
    (fun c hc => notMem_relationChars_of_mem_side c (w.behind_side c (List.mem_of_mem_head? hc)))
  rw [w.isSome_factor_iff]
  exact ⟨g, mark, gap, point, digit, left ++ rest, by rw [← hright]; simp, hg, hmark, hgap,
    hpoint, hdigit⟩

/-- The end of a shape can only be matched around the operator. -/
theorem exists_of_takes_behindX {i j k : Nat} {a taken rest : List Char}
    (htext : text = a ++ (taken ++ rest)) (ha : ∀ x ∈ a.getLast?, x ∉ relationChars)
    (h : (behindX i j k).Takes a taken rest) :
    ∃ m, w.left = a ++ m ∧ SignedQuiet m ∧ p.right.first.factor.isSome = true := by
  simp only [behindX, cat, takes_seq, takes_optional, takes_group, takes_blanks] at h
  obtain ⟨g, _, rfl, hg, s, _, rfl, hs, g', _, rfl, hg', o, _, rfl, ho, g'', n, rfl, hg'', hn⟩ := h
  have hm : SignedQuiet (g ++ (s ++ g')) := by
    refine ⟨g, s ++ g', rfl, hg, ?_⟩
    rcases hs with hs | rfl
    · obtain ⟨c, q, rfl, hc, hq⟩ := exists_sign_of_takes (fun _ _ _ => quiet_of_takes_number) hs
      refine ⟨[c], q ++ g', rfl, Or.inr ⟨c, rfl, hc⟩, ?_⟩
      intro x hx
      rcases List.mem_append.mp hx with hx | hx
      · exact hq x hx
      · exact quiet_of_allBlank hg' x hx
    · exact ⟨[], g', rfl, Or.inl rfl, quiet_of_allBlank hg'⟩
  have hochars : ∃ c o', o = c :: o' ∧ ∀ x ∈ o, x ∈ relationChars := by
    rcases takes_relationSign ho with rfl | rfl | rfl | rfl | rfl | rfl <;>
      exact ⟨_, _, rfl, by simp [relationChars]⟩
  obtain ⟨c, o, rfl, hochars⟩ := hochars
  have htext' : text = (a ++ (g ++ (s ++ g'))) ++ c :: (o ++ (g'' ++ (n ++ rest))) := by
    simpa using htext
  obtain ⟨hleft, hop⟩ := w.eq_left htext' (hochars c List.mem_cons_self)
    (forall_getLast?_append ha fun x hx =>
      hm.notMem_relationChars x (List.mem_of_getLast? hx))
  exact ⟨_, hleft.symm, hm, w.isSome_factor_of_takes hochars hg'' hn hop⟩

end PolynomialRelation.Written

end EquationTutor
