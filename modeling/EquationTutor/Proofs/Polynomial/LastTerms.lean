import EquationTutor.Proofs.Polynomial.Occurrence
import EquationTutor.Proofs.Polynomial.Squares

namespace EquationTutor

open PolynomialText Reading Pattern

namespace PolynomialText

variable {before tail : List Term} {t : Term} {cs : List Char}

theorem TermAt.notMem_back (l : TermAt before t tail cs) {c : Char} (hc : c = 'x' ∨ c = '^')
    (htail : ∀ s ∈ tail, c ∉ s.power.tokens.flatten) : c ∉ l.back := by
  intro hmem
  rcases mem_of_spelled l.spelled_back hmem with h | ⟨s, hs, hcs⟩
  · rcases hc with rfl | rfl <;> cases h
  obtain ⟨k, hk, hks⟩ := List.mem_flatMap.mp hs
  rcases List.mem_append.mp hks with hlead | hpower
  · rcases (k.mem_lead hlead).2 c hcs with h | h | h | h <;>
      rcases hc with rfl | rfl <;> cases h
  · exact htail k hk (List.mem_flatten.mpr ⟨s, hpower, hcs⟩)

/-- The last `x` of a side, where it is that of a linear term. -/
theorem TermAt.eq_of_linear (l : TermAt before t tail cs) (ht : t.power = .linear)
    (htail : ∀ s ∈ tail, s.power = .constant) {a m : List Char} (h : cs = a ++ 'x' :: m)
    (hm : 'x' ∉ m) :
    a = l.front ++ (l.lead ++ l.gap) ∧
      ∃ g, l.power = 'x' :: g ∧ (∀ c ∈ g, c = ' ') ∧ m = g ++ l.back := by
  have hpower := l.spelled_power
  rw [ht] at hpower
  obtain ⟨g, hpow, hg⟩ := spelled_linear hpower
  have hback : 'x' ∉ l.back :=
    l.notMem_back (Or.inl rfl) fun s hs => by simp [htail s hs, Power.tokens]
  have htext := h.symm.trans l.text_eq
  rw [hpow] at htext
  have hlast : a ++ 'x' :: m = (l.front ++ (l.lead ++ l.gap)) ++ 'x' :: (g ++ l.back) := by
    simpa using htext
  obtain ⟨ha, hm⟩ := append_cons_inj_of_last hlast hm (by
    intro hmem
    rcases List.mem_append.mp hmem with hx | hx
    · cases hg _ hx
    · exact hback hx)
  exact ⟨ha, g, hpow, hg, hm⟩

theorem TermAt.eq_of_square (l : TermAt before t tail cs) (ht : t.power = .square)
    (htail : ∀ s ∈ tail, s.power ≠ .square) {a b m : List Char}
    (h : cs = a ++ 'x' :: (b ++ '^' :: m)) (hb : 'x' ∉ b) (hm : '^' ∉ m) :
    a = l.front ++ (l.lead ++ l.gap) ∧
      ∃ g g' g'', l.power = 'x' :: (g ++ '^' :: (g' ++ '2' :: g'')) ∧ (∀ c ∈ g, c = ' ') ∧
        (∀ c ∈ g', c = ' ') ∧ (∀ c ∈ g'', c = ' ') ∧ m = g' ++ '2' :: (g'' ++ l.back) := by
  have hpower := l.spelled_power
  rw [ht] at hpower
  obtain ⟨g, g', g'', hpow, hg, hg', hg''⟩ := spelled_square hpower
  have hback : '^' ∉ l.back := by
    refine l.notMem_back (Or.inr rfl) fun s hs => ?_
    have := htail s hs
    cases hs : s.power with
    | square => exact absurd hs this
    | _ => decide
  have htext := h.symm.trans l.text_eq
  rw [hpow] at htext
  have hlast : (a ++ 'x' :: b) ++ '^' :: m =
      ((l.front ++ (l.lead ++ l.gap)) ++ 'x' :: g) ++ '^' :: (g' ++ '2' :: (g'' ++ l.back)) := by
    simpa using htext
  obtain ⟨hab, hm⟩ := append_cons_inj_of_last hlast hm (by
    intro hmem
    simp only [List.mem_append, List.mem_cons] at hmem
    rcases hmem with hx | hx | hx | hx
    · cases hg' _ hx
    · cases hx
    · cases hg'' _ hx
    · exact hback hx)
  obtain ⟨ha, -⟩ := append_cons_inj_of_last hab hb fun hx => by cases hg _ hx
  exact ⟨ha, g, g', g'', hpow, hg, hg', hg'', hm⟩

/-- The signs, variables, carets and operators among the characters. -/
def outline (cs : List Char) : List Char :=
  cs.filter fun c => !decide (Quiet c)

@[simp] theorem outline_append (a b : List Char) : outline (a ++ b) = outline a ++ outline b :=
  List.filter_append ..

theorem outline_of_quiet {cs : List Char} (h : ∀ c ∈ cs, Quiet c) : outline cs = [] := by
  rw [outline, List.filter_eq_nil_iff]
  intro c hc
  simp [h c hc]

theorem outline_cons {c : Char} (h : ¬ Quiet c) (cs : List Char) :
    outline (c :: cs) = c :: outline cs := by
  simp [outline, h]

theorem outline_cons_of_quiet {c : Char} (h : Quiet c) (cs : List Char) :
    outline (c :: cs) = outline cs := by
  simp [outline, h]

theorem IsSign.not_quiet {c : Char} (h : IsSign c) : ¬ Quiet c :=
  fun hc => hc.not_isSign h

theorem outline_solid (cs : List Char) : outline (solid cs) = outline cs := by
  rw [outline, solid, List.filter_filter]
  refine List.filter_congr fun c _ => ?_
  cases h : Text.isBlank c with
  | false => simp
  | true => simp [quiet_of_isBlank h]

theorem SignThenQuiet.outline_eq {cs : List Char} (h : SignThenQuiet cs) :
    outline cs = [] ∨ ∃ c, IsSign c ∧ outline cs = [c] := by
  obtain ⟨s, q, rfl, hs, hq⟩ := h
  rw [outline_append, outline_of_quiet hq, List.append_nil]
  rcases hs with rfl | ⟨c, rfl, hc⟩
  · exact Or.inl rfl
  · exact Or.inr ⟨c, hc, outline_cons hc.not_quiet []⟩

def Power.outline (q : Power) : List Char :=
  PolynomialText.outline q.tokens.flatten

theorem Power.outline_injective {q r : Power} (h : q.outline = r.outline) : q = r := by
  revert h
  cases q <;> cases r <;> decide

theorem Power.not_isSign_of_mem_outline : ∀ q : Power, ∀ c ∈ q.outline, ¬ IsSign c := by
  intro q
  cases q <;> exact List.all_iff_forall_prop.mp (by decide)

theorem Term.outline_text {t : Term} (h : t.sign.isSome = true) :
    ∃ c, IsSign c ∧ outline t.text = c :: t.power.outline := by
  obtain ⟨s, hs⟩ := Option.isSome_iff_exists.mp h
  have hsign : IsSign s.char := s.char_mem
  refine ⟨s.char, hsign, ?_⟩
  rw [Term.text, Term.mark, hs, Option.elim_some, outline_append, outline_append,
    outline_of_quiet t.quiet_digits, outline_cons hsign.not_quiet]
  rfl

/-- The signs tell where a term starts, so that equal outlines are of equal powers. -/
theorem map_power_of_outline {ts : List Term} (hts : ∀ t ∈ ts, t.sign.isSome = true)
    {ks : List (Char × Power)} (hks : ∀ k ∈ ks, IsSign k.1)
    (h : outline (ts.flatMap Term.text) = ks.flatMap fun k => k.1 :: k.2.outline) :
    ts.map Term.power = ks.map Prod.snd := by
  induction ts generalizing ks with
  | nil =>
      cases ks with
      | nil => rfl
      | cons k ks => cases h
  | cons t ts ih =>
      obtain ⟨c, -, ht⟩ := Term.outline_text (hts t List.mem_cons_self)
      rw [List.flatMap_cons, outline_append, ht] at h
      cases ks with
      | nil => cases h
      | cons k ks =>
          rw [List.flatMap_cons] at h
          have htail := (List.cons.inj h).2
          have hfirst : ∀ d ∈ (outline (ts.flatMap Term.text)).head?, IsSign d := by
            cases ts with
            | nil => simp [outline]
            | cons u ts =>
                obtain ⟨d, hd, hu⟩ := Term.outline_text (hts u (by simp))
                rw [List.flatMap_cons, outline_append, hu]
                simpa using hd
          have hfirst' : ∀ d ∈ (ks.flatMap fun k => k.1 :: k.2.outline).head?, IsSign d := by
            cases ks with
            | nil => simp
            | cons l ks => simpa using hks l (by simp)
          obtain ⟨hpower, hrest⟩ := append_inj_of_first htail t.power.not_isSign_of_mem_outline
            k.2.not_isSign_of_mem_outline hfirst hfirst'
          rw [List.map_cons, List.map_cons, Power.outline_injective hpower,
            ih (fun u hu => hts u (List.mem_cons_of_mem t hu))
              (fun l hl => hks l (List.mem_cons_of_mem k hl)) hrest]

theorem outline_spelled_terms {ts : List Term} {cs : List Char}
    (h : Spelled (· == ' ') (ts.flatMap Term.tokens) cs) :
    outline cs = outline (ts.flatMap Term.text) := by
  rw [← solid_spelled_terms h, outline_solid]

theorem outline_of_eq_space {g : List Char} (h : ∀ c ∈ g, c = ' ') : outline g = [] :=
  outline_of_quiet (quiet_of_allBlank (allBlank_of_eq_space h))

theorem Side.isSome_sign_of_tail {s : Side} {before tail : List Term} {t : Term}
    (h : s.terms = before ++ t :: tail) : ∀ u ∈ tail, u.sign.isSome = true := by
  intro u hu
  apply s.isSome_sign
  rw [Side.terms] at h
  cases before with
  | nil =>
      obtain ⟨-, h⟩ := List.cons.inj h
      rw [h]
      exact hu
  | cons v before =>
      obtain ⟨-, h⟩ := List.cons.inj h
      rw [h]
      simp [hu]

theorem Side.exists_termAt_of_x {s : Side} (hs : ∀ t ∈ s.terms, t.power ≠ .square)
    (hcs : Spelled (· == ' ') s.tokens cs) {a m : List Char} (h : cs = a ++ 'x' :: m)
    (hm : 'x' ∉ m) :
    ∃ before t tail, ∃ l : TermAt before t tail cs,
      s.terms = before ++ t :: tail ∧ t.power = .linear ∧ a = l.front ++ (l.lead ++ l.gap) ∧
      ∃ g, l.power = 'x' :: g ∧ (∀ c ∈ g, c = ' ') ∧ m = g ++ l.back := by
  rcases exists_last (fun t : Term => t.power ≠ .constant) s.terms with
    hnone | ⟨before, t, tail, hterms, ht, htail⟩
  · -- constants have no variable
    exfalso
    have hx : 'x' ∈ cs := by simp [h]
    rcases mem_of_spelled hcs hx with h | ⟨k, hk, hxk⟩
    · cases h
    · obtain ⟨t, ht, hkt⟩ := List.mem_flatMap.mp hk
      have hconstant : t.power = .constant := by simpa using hnone t ht
      rw [Term.tokens, hconstant] at hkt
      have hlead : k ∈ t.lead := by simpa [Power.tokens] using hkt
      rcases (t.mem_lead hlead).2 'x' hxk with h | h | h | h <;> cases h
  · have hlinear : t.power = .linear := by
      cases hp : t.power with
      | constant => exact absurd hp ht
      | linear => rfl
      | square => exact absurd hp (hs t (by simp [hterms]))
    have hcs' := hcs
    rw [Side.tokens, hterms] at hcs'
    obtain ⟨l⟩ := nonempty_termAt hcs'
    obtain ⟨ha, hback⟩ := l.eq_of_linear hlinear (by simpa using htail) h hm
    exact ⟨before, t, tail, l, hterms, hlinear, ha, hback⟩

end PolynomialText

end EquationTutor
