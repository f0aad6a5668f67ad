import EquationTutor.Proofs.Polynomial.LinearMatch

namespace EquationTutor

open PolynomialText Reading Pattern

namespace PolynomialText

variable {consts : List Term} {cs rest : List Char}

/-- The optional multiple of `x` behind a square. -/
def linearPart : Pattern :=
  cat [group 2 signedCoefficient, times, char 'x', boundary]

theorem exists_of_takes_linearPart {before taken : List Char}
    (h : linearPart.Takes before taken rest) :
    ∃ c q, taken = c :: (q ++ ['x']) ∧ IsSign c ∧ ∀ d ∈ q, Quiet d := by
  obtain ⟨s, _, rfl, hs, t, _, rfl, ht, _, _, rfl, hx, rfl, -⟩ := h
  obtain rfl := takes_char.mp hx
  obtain ⟨c, q, rfl, hc, hq⟩ :=
    exists_sign_of_takes (fun _ _ _ => quiet_of_takes_optional_number) hs
  refine ⟨c, q ++ t, by simp, hc, ?_⟩
  intro d hd
  rcases List.mem_append.mp hd with hd | hd
  · exact hq d hd
  · exact quiet_of_takes_times ht d hd

theorem exists_outline_of_takes_linearPart {before taken : List Char}
    (h : (optional linearPart).Takes before taken rest) :
    (∀ c ∈ taken, c ∉ relationChars ∧ c ≠ '^') ∧ ∃ ks : List (Char × Power),
      (∀ k ∈ ks, IsSign k.1) ∧ (ks.map Prod.snd = [] ∨ ks.map Prod.snd = [.linear]) ∧
      outline taken = ks.flatMap fun k => k.1 :: k.2.outline := by
  rcases h with h | rfl
  · obtain ⟨c, q, rfl, hc, hq⟩ := exists_of_takes_linearPart h
    refine ⟨?_, [(c, .linear)], by simpa using hc, Or.inr rfl, ?_⟩
    · intro d hd
      simp only [List.mem_cons, List.mem_append, List.not_mem_nil, or_false] at hd
      rcases hd with rfl | hd | rfl
      · rcases hc with rfl | rfl <;> decide
      · exact ⟨(hq d hd).notMem_relationChars, (hq d hd).ne (by decide)⟩
      · decide
    · rw [outline_cons hc.not_quiet, outline_append, outline_of_quiet hq]
      rfl
  · exact ⟨by simp, [], by simp, Or.inl rfl, rfl⟩

theorem refuses_linearPart (hsigned : ∀ u ∈ consts, u.sign.isSome = true)
    (hconsts : consts = [] ∨ ∃ k, consts = [k] ∧ k.power = .constant)
    (hcs : Spelled (· == ' ') (consts.flatMap Term.tokens) cs)
    (hrest : ∀ c ∈ rest.head?, c ∈ relationChars) (chars : List Char) :
    linearPart.Refuses chars (cs ++ rest) := by
  intro taken left hsplit htakes
  obtain ⟨c, q, rfl, hc, hq⟩ := exists_of_takes_linearPart htakes
  rcases hconsts with rfl | ⟨k, rfl, hk⟩
  · obtain rfl : cs = [] := hcs
    rw [List.nil_append] at hsplit
    exact (not_blank_of_mem_relationChars c (hrest c (by simp [hsplit]))).2 hc
  · rw [List.flatMap_singleton] at hcs
    obtain ⟨lead, gap, power, rfl, hleads, hpower⟩ := k.exists_leads_of_spelled hcs
    rw [hk] at hpower
    obtain rfl : power = [] := hpower
    obtain ⟨g, rfl, hg, -⟩ := hleads.exists_eq
    obtain ⟨s, hs⟩ := Option.isSome_iff_exists.mp (hsigned k (by simp))
    rw [Term.mark, hs] at hsplit
    have htail : (g ++ (k.digits ++ gap)) ++ rest = q ++ 'x' :: left := by
      simpa using (List.cons.inj hsplit).2
    obtain ⟨-, hx⟩ := append_inj_of_first (P := fun d => ¬ Quiet d) htail (by
      intro d hd
      simp only [List.mem_append] at hd
      rw [not_not]
      rcases hd with hd | hd | hd
      · exact quiet_of_allBlank (allBlank_of_eq_space hg) d hd
      · exact k.quiet_digits d hd
      · exact quiet_of_allBlank (allBlank_of_eq_space hleads.gap_blank) d hd)
      (fun d hd => not_not_intro (hq d hd))
      (fun d hd hquiet => hquiet.notMem_relationChars (hrest d hd)) (by simp [Quiet, noisyChars])
    have hmem : 'x' ∈ relationChars := hrest 'x' (by simp [hx])
    revert hmem
    decide

theorem best_linearPart {lins : List Term} (hsigned : ∀ u ∈ lins ++ consts, u.sign.isSome = true)
    (hlins : lins = [] ∨ ∃ v, lins = [v] ∧ v.power = .linear)
    (hconsts : consts = [] ∨ ∃ k, consts = [k] ∧ k.power = .constant)
    (hcs : Spelled (· == ' ') ((lins ++ consts).flatMap Term.tokens) cs)
    (hrest : ∀ c ∈ rest.head?, c ∈ relationChars) (hends : NumberEnds rest) (chars : List Char)
    (g : Groups) :
    ∃ taken gap cs', ∃ linear : Capture, cs = taken ++ (gap ++ cs') ∧ (∀ c ∈ gap, c = ' ') ∧
      Spelled (· == ' ') (consts.flatMap Term.tokens) cs' ∧
      (optional linearPart).Best chars taken (gap ++ (cs' ++ rest)) g
        (g ++ lins.map fun _ => (2, linear)) ∧
      ∀ v ∈ lins, ∃ gap, v.Leads linear.chars gap := by
  rcases hlins with rfl | ⟨v, rfl, hv⟩
  · refine ⟨[], [], cs, ⟨0, []⟩, rfl, by simp, hcs, ?_, by simp⟩
    rw [List.map_nil, List.append_nil]
    exact best_optional_of_refuses (refuses_linearPart hsigned hconsts hcs hrest chars)
  · obtain ⟨l, hfront⟩ := exists_firstAt hcs
    have hpower := l.spelled_power
    rw [hv] at hpower
    obtain ⟨gap, hpow, hgap⟩ := spelled_linear hpower
    have hconst : ∀ u ∈ consts, u.sign.isSome = true := fun u hu => hsigned u (by simp [hu])
    have htext : cs = (l.lead ++ (l.gap ++ ['x'])) ++ (gap ++ l.back) := by
      refine l.text_eq.trans ?_
      simp [hfront, hpow]
    refine ⟨_, gap, l.back, ⟨chars.length, l.lead⟩, htext, hgap, l.spelled_back, ?_,
      by simpa using ⟨_, l.leads⟩⟩
    have hafter : l.gap ++ (l.power ++ (l.back ++ rest)) =
        l.gap ++ ['x'] ++ (gap ++ (l.back ++ rest)) := by
      simp [hpow]
    have hword := not_isWordChar_behind hconst l.spelled_back hgap hrest
    refine best_optional (best_seq (best_group (best_signedCoefficient l.leads ?_
      (hsigned v (by simp)) ?_)) (best_seq (best_times l.leads.gap_blank (startsWithVariable_x rfl))
        (best_seq (s := ['x']) (t := []) best_char (best_boundary_x hword _ _))))
    · rw [← hafter]
      exact l.numberEnds hconst hends
    · intro hnone
      rw [← hafter]
      exact startsWithVariable_x (l.head?_of_factor_eq_none hnone rest)

theorem best_squared {g g' chars rest : List Char} (hg : ∀ c ∈ g, c = ' ')
    (hg' : ∀ c ∈ g', c = ' ') (gr : Groups) :
    (squared 'x').Best chars ('x' :: (g ++ '^' :: (g' ++ ['2']))) rest gr gr := by
  have hsplit : 'x' :: (g ++ '^' :: (g' ++ ['2'])) =
      ['x'] ++ (g ++ (['^'] ++ (g' ++ ['2']))) := by
    simp
  rw [hsplit]
  refine best_seq best_char (best_seq (best_blanks (allBlank_of_eq_space hg) ?_)
    (best_seq best_char (best_seq (best_blanks (allBlank_of_eq_space hg') ?_) best_char)))
  · intro c hc
    obtain rfl : '^' = c := by simpa using hc
    decide
  · intro c hc
    obtain rfl : '2' = c := by simpa using hc
    decide

/-- What may follow the last square, so that it is read. -/
def squareTails : List (List Power) :=
  [[], [.linear], [.constant], [.linear, .constant]]

theorem exists_split_of_squareTail {tail : List Term} (h : tail.map Term.power ∈ squareTails) :
    ∃ lins consts, tail = lins ++ consts ∧ (lins = [] ∨ ∃ v, lins = [v] ∧ v.power = .linear) ∧
      (consts = [] ∨ ∃ k, consts = [k] ∧ k.power = .constant) := by
  simp only [squareTails, List.mem_cons, List.not_mem_nil, or_false] at h
  rcases h with h | h | h | h
  · exact ⟨[], [], List.map_eq_nil_iff.mp h, Or.inl rfl, Or.inl rfl⟩
  · obtain ⟨v, rfl, hv⟩ := List.map_eq_singleton_iff.mp h
    exact ⟨[v], [], rfl, Or.inr ⟨v, rfl, hv⟩, Or.inl rfl⟩
  · obtain ⟨k, rfl, hk⟩ := List.map_eq_singleton_iff.mp h
    exact ⟨[], [k], rfl, Or.inl rfl, Or.inr ⟨k, rfl, hk⟩⟩
  · obtain ⟨v, ks, rfl, hv, hks⟩ := List.map_eq_cons_iff.mp h
    obtain ⟨k, rfl, hk⟩ := List.map_eq_singleton_iff.mp hks
    exact ⟨[v], [k], rfl, Or.inr ⟨v, rfl, hv⟩, Or.inr ⟨k, rfl, hk⟩⟩

theorem ne_square_of_tail {lins : List Term}
    (hlins : lins = [] ∨ ∃ v, lins = [v] ∧ v.power = .linear)
    (hconsts : consts = [] ∨ ∃ k, consts = [k] ∧ k.power = .constant) :
    ∀ u ∈ lins ++ consts, u.power ≠ .square := by
  intro u hu
  rcases List.mem_append.mp hu with hu | hu
  · rcases hlins with rfl | ⟨v, rfl, hv⟩
    · cases hu
    · rw [List.mem_singleton.mp hu, hv]
      decide
  · rcases hconsts with rfl | ⟨k, rfl, hk⟩
    · cases hu
    · rw [List.mem_singleton.mp hu, hk]
      decide

end PolynomialText

namespace PolynomialRelation.Written

variable {p : PolynomialRelation} {text : List Char} (w : p.Written text)
include w

/-- A match of the quadratic shape takes the last square on the left, and the order of the
signs and variables behind it is that of a tail that is read. -/
theorem exists_of_takes_quadratic {a taken rest : List Char}
    (htext : text = a ++ (taken ++ rest)) (h : Shape.quadratic.Takes a taken rest) :
    ∃ s b m, w.left = (a ++ s) ++ 'x' :: (b ++ '^' :: m) ∧ SignThenQuiet s ∧ 'x' ∉ b ∧ '^' ∉ m ∧
      (∃ ks : List (Char × Power), (∀ k ∈ ks, IsSign k.1) ∧ ks.map Prod.snd ∈ squareTails ∧
        outline m = ks.flatMap fun k => k.1 :: k.2.outline) ∧
      p.right.first.factor.isSome = true := by
  obtain ⟨s, _, rfl, hs, t, _, rfl, ht, q, _, rfl, hq, g, _, rfl, hg, n, taken, rfl, hn,
    hbehind⟩ := h
  obtain ⟨b, b', rfl, hb, hb'⟩ := takes_squared.mp hq
  rw [takes_blanks] at hg
  have htext' : text =
      (a ++ s ++ t ++ 'x' :: (b ++ '^' :: (b' ++ ['2'])) ++ g ++ n) ++ (taken ++ rest) := by
    simpa using htext
  obtain ⟨hnchars, ks, hks, hkslinear, hnoutline⟩ := exists_outline_of_takes_linearPart hn
  have hquiet : ∀ x ∈ b' ++ '2' :: (g ++ n), x ∉ relationChars ∧ x ≠ '^' := by
    intro x hx
    simp only [List.mem_append, List.mem_cons] at hx
    rcases hx with hx | rfl | hx | hx
    · have hx := quiet_of_allBlank hb' x hx
      exact ⟨hx.notMem_relationChars, hx.ne (by decide)⟩
    · decide
    · have hx := quiet_of_allBlank hg x hx
      exact ⟨hx.notMem_relationChars, hx.ne (by decide)⟩
    · exact hnchars x hx
  have hlast : (a ++ s ++ t ++ 'x' :: (b ++ '^' :: (b' ++ ['2'])) ++ g ++ n) =
      (a ++ s ++ t ++ 'x' :: (b ++ ['^'])) ++ (b' ++ '2' :: (g ++ n)) := by
    simp
  obtain ⟨m, hleft, hm, hnumber⟩ := w.exists_of_takes_behindX htext' (by
    rw [hlast]
    exact of_mem_getLast?_append (by simp) fun x hx => (hquiet x hx).1) hbehind
  refine ⟨s ++ t, b, (b' ++ '2' :: (g ++ n)) ++ m, by simpa using hleft,
    signThenQuiet_of_takes hs ht, ?_, ?_, ?_, hnumber⟩
  · intro hx
    exact (quiet_of_allBlank hb 'x' hx).ne (by decide) rfl
  · intro hx
    rcases List.mem_append.mp hx with hx | hx
    · exact (hquiet '^' hx).2 rfl
    · exact hm.notMem (by decide) hx
  · have houtline : outline ((b' ++ '2' :: (g ++ n)) ++ m) = outline n ++ outline m := by
      rw [outline_append, outline_append, outline_of_quiet (quiet_of_allBlank hb'),
        outline_cons_of_quiet (by decide), outline_append,
        outline_of_quiet (quiet_of_allBlank hg)]
      rfl
    rcases hm.outline_eq with hm | ⟨c, hc, hm⟩
    · refine ⟨ks, hks, ?_, by rw [houtline, hm, hnoutline, List.append_nil]⟩
      rcases hkslinear with h | h <;> rw [h] <;> decide
    · refine ⟨ks ++ [(c, .constant)], ?_, ?_, ?_⟩
      · intro k hk
        rcases List.mem_append.mp hk with hk | hk
        · exact hks k hk
        · rw [List.mem_singleton.mp hk]
          exact hc
      · rw [List.map_append]
        rcases hkslinear with h | h <;> rw [h] <;> simp [squareTails]
      · rw [houtline, hm, hnoutline, List.flatMap_append]
        rfl

theorem exists_terms_of_within_quadratic (h : Shape.quadratic.Within text) :
    (∃ before t tail, p.left.terms = before ++ t :: tail ∧ t.power = .square ∧
      tail.map Term.power ∈ squareTails) ∧ p.right.first.factor.isSome = true := by
  obtain ⟨a, taken, rest, htext, htakes⟩ := h
  obtain ⟨s, b, m, hleft, -, hb, hm, ⟨ks, hks, htails, houtline⟩, hnumber⟩ :=
    w.exists_of_takes_quadratic (by rw [htext, List.append_assoc]) htakes
  refine ⟨?_, hnumber⟩
  rcases exists_last (fun t : Term => t.power = .square) p.left.terms with
    hnone | ⟨before, t, tail, hterms, ht, htail⟩
  · obtain ⟨t, ht, hsquare⟩ := w.exists_square_of_mem (by rw [hleft]; simp)
    exact absurd hsquare (hnone t ht)
  · have hspelled := w.spelled_left
    rw [Side.tokens, hterms] at hspelled
    obtain ⟨l⟩ := nonempty_termAt hspelled
    obtain ⟨-, g, g', g'', -, -, hg', hg'', hmeq⟩ := l.eq_of_square ht htail hleft hb hm
    have hback : outline m = outline (tail.flatMap Term.text) := by
      rw [hmeq, outline_append, outline_of_eq_space hg', outline_cons_of_quiet (by decide),
        outline_append, outline_of_eq_space hg'', outline_spelled_terms l.spelled_back]
      rfl
    refine ⟨before, t, tail, hterms, ht, ?_⟩
    rwa [map_power_of_outline (Side.isSome_sign_of_tail hterms) hks (hback.symm.trans houtline)]

end PolynomialRelation.Written

namespace PolynomialText

/-- The groups of a match of the quadratic shape are the texts of the square, of the terms
behind it, of the operator and of the number. -/
def QuadraticGroups (groups : Groups) (t : Term) (lins consts : List Term) (r : Relation)
    (k : Term) : Prop :=
  ∃ coefficient linear constant operator number : Capture,
    groups = (1, coefficient) :: (lins.map (fun _ => (2, linear)) ++
      (consts.map (fun _ => (3, constant)) ++ [(4, operator), (5, number)])) ∧
    (∃ gap, t.Leads coefficient.chars gap) ∧ (∀ u ∈ lins, ∃ gap, u.Leads linear.chars gap) ∧
    (∀ u ∈ consts, ∃ gap, u.Leads constant.chars gap) ∧
    operator.text = r.operator ∧ ∃ gap, k.Leads number.chars gap

section Behind

variable {r : Relation} {side : Side} {spaces right : List Char}
  (hspaces : ∀ c ∈ spaces, c = ' ') (hright : Spelled (· == ' ') side.tokens right)
  (hnumber : side.first.factor.isSome = true) {lins consts : List Term}
  (hlins : lins = [] ∨ ∃ v, lins = [v] ∧ v.power = .linear)
  (hconsts : consts = [] ∨ ∃ k, consts = [k] ∧ k.power = .constant)
  (hsigned : ∀ u ∈ lins ++ consts, u.sign.isSome = true)
include hspaces hright hnumber hlins hconsts hsigned

theorem best_behindSquare {gap cs : List Char} (hgap : ∀ c ∈ gap, c = ' ')
    (hcs : Spelled (· == ' ') ((lins ++ consts).flatMap Term.tokens) cs) (chars : List Char)
    (g : Groups) :
    ∃ taken rest, ∃ linear constant operator number : Capture,
      gap ++ (cs ++ (r.operator.toList ++ (spaces ++ right))) = taken ++ rest ∧
      (cat [blanks, optional linearPart, behindX 3 4 5]).Best chars taken rest g
        (g ++ (lins.map (fun _ => (2, linear)) ++
          (consts.map (fun _ => (3, constant)) ++ [(4, operator), (5, number)]))) ∧
      (∀ u ∈ lins, ∃ gap, u.Leads linear.chars gap) ∧
      (∀ u ∈ consts, ∃ gap, u.Leads constant.chars gap) ∧
      operator.text = r.operator ∧ ∃ gap, side.first.Leads number.chars gap := by
  have hops := r.head_operator (spaces ++ right)
  obtain ⟨taken, sp, cs', linear, rfl, hsp, hcs', hlinear, hlins'⟩ :=
    best_linearPart hsigned hlins hconsts hcs (fun c hc => (hops c hc).1)
      (numberEnds_operator _ _) (chars ++ gap) g
  obtain ⟨taken', rest, constant, operator, number, hsplit, hbest, hconst, hop, hnum⟩ :=
    best_behindX (r := r) hspaces hright hnumber (fun u hu => hsigned u (by simp [hu])) hconsts
      hsp hcs' 3 4 5 (chars ++ gap ++ taken) (g ++ lins.map fun _ => (2, linear))
  rw [hsplit] at hlinear
  rw [List.append_assoc g] at hbest
  have hparts : taken ++ (sp ++ cs') ++ (r.operator.toList ++ (spaces ++ right)) =
      taken ++ taken' ++ rest := by
    rw [List.append_assoc taken taken', ← hsplit]
    simp
  refine ⟨gap ++ (taken ++ taken'), rest, linear, constant, operator, number,
    by rw [hparts, ← List.append_assoc],
    best_seq (best_blanks (allBlank_of_eq_space hgap) ?_) (best_seq hlinear hbest), hlins',
    hconst, hop, hnum⟩
  rw [← hparts]
  refine forall_head?_append ?_ fun c hc => (not_blank_of_mem_relationChars c (hops c hc).1).1
  rcases eq_nil_or_exists_sign hsigned hcs with ⟨-, h⟩ | ⟨c, cs, h, hc⟩
  · simp [h]
  · intro d hd
    obtain rfl : c = d := by simpa [h] using hd
    rcases hc with rfl | rfl <;> decide

theorem best_quadratic {before : List Term} {t : Term} {text : List Char}
    (l : TermAt before t (lins ++ consts) text) (ht : t.power = .square) :
    ∃ taken rest, ∃ groups : Groups,
      l.lead ++ (l.gap ++ (l.power ++ (l.back ++ (r.operator.toList ++ (spaces ++ right))))) =
        taken ++ rest ∧
      Shape.quadratic.Best l.front taken rest [] groups ∧
      QuadraticGroups groups t lins consts r side.first := by
  have hpower := l.spelled_power
  rw [ht] at hpower
  obtain ⟨g, g', g'', hpow, hg, hg', hg''⟩ := spelled_square hpower
  obtain ⟨taken, rest, linear, constant, operator, number, hsplit, hbest, hlinear, hconst, hop,
    hnum⟩ := best_behindSquare (r := r) hspaces hright hnumber hlins hconsts hsigned hg''
      l.spelled_back (l.front ++ l.lead ++ l.gap ++ 'x' :: (g ++ '^' :: (g' ++ ['2'])))
      [(1, ⟨l.front.length, l.lead⟩)]
  have hbehind : l.power ++ (l.back ++ (r.operator.toList ++ (spaces ++ right))) =
      'x' :: (g ++ '^' :: (g' ++ ['2'])) ++ taken ++ rest := by
    rw [List.append_assoc _ taken, ← hsplit, hpow]
    simp
  have hfront := l.best_front hsigned (numberEnds_operator _ _) (by rw [hpow]; rfl) hbehind
    (best_seq (best_squared hg hg' _) hbest)
  refine ⟨_, rest, _, ?_, hfront, ⟨l.front.length, l.lead⟩, linear, constant, operator, number,
    rfl, ⟨_, l.leads⟩, hlinear, hconst, hop, hnum⟩
  rw [hbehind]
  simp

end Behind

end PolynomialText

namespace PolynomialRelation.Written

variable {p : PolynomialRelation} {s : String} (w : p.Written s.toList)
include w

/-- What the quadratic shape finds: the square `t`, the terms behind it, the operator and the
first number on the right. -/
theorem find?_quadratic {before lins consts : List Term} {t : Term}
    (hterms : p.left.terms = before ++ t :: (lins ++ consts)) (ht : t.power = .square)
    (hlins : lins = [] ∨ ∃ v, lins = [v] ∧ v.power = .linear)
    (hconsts : consts = [] ∨ ∃ k, consts = [k] ∧ k.power = .constant)
    (hnumber : p.right.first.factor.isSome = true) :
    ∃ m, Shape.quadratic.find? s = some m ∧
      QuadraticGroups m.groups t lins consts p.relation p.right.first := by
  have hspelled := w.spelled_left
  rw [Side.tokens, hterms] at hspelled
  obtain ⟨l⟩ := nonempty_termAt hspelled
  obtain ⟨taken, rest, groups, hsplit, hbest, hgroups⟩ :=
    best_quadratic (r := p.relation) w.eq_space w.spelled_right hnumber hlins hconsts
      (Side.isSome_sign_of_tail hterms) l ht
  have htext := w.text_eq_of_termAt l
  rw [hsplit] at htext
  refine ⟨_, find?_eq_some htext hbest ?_, hgroups⟩
  intro a b hab hb taken' rest' hsplit' htakes
  obtain ⟨u, c, m, hleft, hu, hc, hm, -⟩ := w.exists_of_takes_quadratic
    (by rw [← hsplit', ← List.append_assoc, ← hab]; exact htext) htakes
  obtain ⟨heq, -⟩ := l.eq_of_square ht (ne_square_of_tail hlins hconsts) hleft hc hm
  exact l.not_signThenQuiet (Side.isSome_sign_of_before hterms) hab hb heq hu

end PolynomialRelation.Written

end EquationTutor
