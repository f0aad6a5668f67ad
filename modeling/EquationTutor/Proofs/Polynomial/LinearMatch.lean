import EquationTutor.Proofs.Polynomial.Shapes

namespace EquationTutor

open PolynomialText Reading Pattern

namespace PolynomialText

theorem Side.isSome_sign_of_before {s : Side} {before tail : List Term} {t : Term}
    (h : s.terms = before ++ t :: tail) (hbefore : before ≠ []) : t.sign.isSome = true := by
  apply s.isSome_sign
  obtain ⟨u, before, rfl⟩ := List.exists_cons_of_ne_nil hbefore
  obtain ⟨-, h⟩ := List.cons.inj h
  rw [h]
  simp

variable {before tail : List Term} {t : Term} {cs : List Char} (l : TermAt before t tail cs)
include l

theorem TermAt.not_signThenQuiet (hsign : before ≠ [] → t.sign.isSome = true) {a b s : List Char}
    (hfront : l.front = a ++ b) (hb : b ≠ []) (h : a ++ s = l.front ++ (l.lead ++ l.gap)) :
    ¬ SignThenQuiet s := by
  rintro ⟨m, q, rfl, hm, hq⟩
  have hbefore : before ≠ [] := by
    rintro rfl
    have hnil : l.front = [] := l.spelled_front
    rw [hnil] at hfront
    exact hb (List.append_eq_nil_iff.mp hfront.symm).2
  obtain ⟨sg, hsg⟩ := Option.isSome_iff_exists.mp (hsign hbefore)
  obtain ⟨g, hlead, -, -⟩ := l.leads.exists_eq
  have hs : m ++ q = b ++ sg.char :: (g ++ t.digits ++ l.gap) := by
    rw [hfront, hlead, List.append_assoc] at h
    simpa [Term.mark, hsg] using List.append_cancel_left h
  have hquiet : sg.char ∈ q := by
    rcases hm with rfl | ⟨c, rfl, -⟩
    · rw [List.nil_append] at hs
      rw [hs]
      simp
    · obtain ⟨d, b, rfl⟩ := List.exists_cons_of_ne_nil hb
      have hq : q = b ++ sg.char :: (g ++ t.digits ++ l.gap) := (List.cons.inj hs).2
      rw [hq]
      simp
  exact (hq _ hquiet).not_isSign sg.char_mem

theorem TermAt.best_front (htail : ∀ u ∈ tail, u.sign.isSome = true) {rest taken left : List Char}
    (hrest : NumberEnds rest) (hx : l.power.head? = some 'x')
    (hsplit : l.power ++ (l.back ++ rest) = taken ++ left) {q : Pattern} {chars : List Char}
    {g : Groups}
    (hq : q.Best (chars ++ l.lead ++ l.gap) taken left [(1, ⟨chars.length, l.lead⟩)] g) :
    (seq (group 1 coefficient) (seq times q)).Best chars (l.lead ++ (l.gap ++ taken)) left []
      g := by
  have hhead : (taken ++ left).head? = some 'x' := by
    rw [← hsplit, List.head?_append, hx]
    rfl
  refine best_seq (best_group (best_coefficient l.leads ?_ ?_))
    (best_seq (best_times l.leads.gap_blank (startsWithVariable_x hhead)) hq)
  · rw [List.append_assoc, ← hsplit]
    exact l.numberEnds htail hrest
  · intro hnone
    rw [List.append_assoc, ← hsplit]
    exact startsWithVariable_x (l.head?_of_factor_eq_none hnone rest)

end PolynomialText

namespace PolynomialRelation.Written

variable {p : PolynomialRelation} {text : List Char} (w : p.Written text)
include w

theorem text_eq_of_termAt {before tail : List Term} {t : Term} (l : TermAt before t tail w.left) :
    text = l.front ++ (l.lead ++ (l.gap ++ (l.power ++ (l.back ++
      (p.relation.operator.toList ++ (w.spaces ++ w.right)))))) := by
  refine w.text_eq.trans ((congrArg (· ++ _) l.text_eq).trans ?_)
  simp

/-- A match of the linear shape takes the last `x` on the left. -/
theorem exists_of_takes_linear {a taken rest : List Char} (htext : text = a ++ (taken ++ rest))
    (h : Shape.linear.Takes a taken rest) :
    ∃ s m, w.left = (a ++ s) ++ 'x' :: m ∧ SignThenQuiet s ∧ 'x' ∉ m ∧
      p.right.first.factor.isSome = true := by
  obtain ⟨s, _, rfl, hs, t, _, rfl, ht, _, _, rfl, hx, _, taken, rfl, ⟨rfl, -⟩, hbehind⟩ := h
  obtain rfl := takes_char.mp hx
  have htext' : text = (a ++ s ++ t ++ ['x'] ++ []) ++ (taken ++ rest) := by
    simpa using htext
  obtain ⟨m, hleft, hm, hnumber⟩ := w.exists_of_takes_behindX htext' (by
    intro c hc
    obtain rfl : 'x' = c := by simpa using hc
    decide) hbehind
  exact ⟨s ++ t, m, by simpa using hleft, signThenQuiet_of_takes hs ht,
    hm.notMem (by decide), hnumber⟩

end PolynomialRelation.Written

namespace PolynomialRelation.Written

variable {p : PolynomialRelation} {s : String} (w : p.Written s.toList)
include w

/-- What the linear shape finds: the term `t`, the constant behind it, the operator and the
first number on the right. -/
theorem find?_linear {before tail : List Term} {t : Term}
    (hterms : p.left.terms = before ++ t :: tail) (ht : t.power = .linear)
    (htail : tail = [] ∨ ∃ k, tail = [k] ∧ k.power = .constant)
    (hnumber : p.right.first.factor.isSome = true) :
    ∃ m, ∃ coefficient constant operator number : Capture, Shape.linear.find? s = some m ∧
      m.groups = (1, coefficient) :: (tail.map (fun _ => (2, constant)) ++
        [(3, operator), (4, number)]) ∧
      (∃ gap, t.Leads coefficient.chars gap) ∧
      (∀ u ∈ tail, ∃ gap, u.Leads constant.chars gap) ∧
      operator.text = p.relation.operator ∧ ∃ gap, p.right.first.Leads number.chars gap := by
  have hsigned := Side.isSome_sign_of_tail hterms
  have hspelled := w.spelled_left
  rw [Side.tokens, hterms] at hspelled
  obtain ⟨l⟩ := nonempty_termAt hspelled
  have hpower := l.spelled_power
  rw [ht] at hpower
  obtain ⟨g, hpow, hg⟩ := spelled_linear hpower
  obtain ⟨taken, rest, constant, operator, number, hsplit, hbest, hconst, hop, hnum⟩ :=
    best_behindX (r := p.relation) w.eq_space w.spelled_right hnumber hsigned htail hg
      l.spelled_back 2 3 4 (l.front ++ l.lead ++ l.gap ++ ['x']) [(1, ⟨l.front.length, l.lead⟩)]
  have hword : ∀ c ∈ (taken ++ rest).head?, Text.isWordChar c = false := by
    rw [← hsplit]
    exact not_isWordChar_behind hsigned l.spelled_back hg fun c hc =>
      (p.relation.head_operator _ c hc).1
  have hbody : (seq (char 'x') (seq boundary (behindX 2 3 4))).Best (l.front ++ l.lead ++ l.gap)
      ('x' :: taken) rest [(1, ⟨l.front.length, l.lead⟩)] _ :=
    best_seq (s := ['x']) best_char (best_seq (s := []) (best_boundary_x hword _ _)
      (by rwa [List.append_nil]))
  have hbehind : l.power ++ (l.back ++ (p.relation.operator.toList ++ (w.spaces ++ w.right))) =
      'x' :: taken ++ rest := by
    rw [hpow, List.cons_append, hsplit, List.cons_append]
  have hfront := l.best_front hsigned (numberEnds_operator _ _)
    (by rw [hpow]; rfl) hbehind hbody
  have htext := w.text_eq_of_termAt l
  rw [hbehind, ← List.append_assoc l.gap, ← List.append_assoc l.lead] at htext
  refine ⟨_, ⟨l.front.length, l.lead⟩, constant, operator, number,
    find?_eq_some htext hfront ?_, rfl, ⟨_, l.leads⟩, hconst, hop, hnum⟩
  intro a b hab hb taken' rest' hsplit' htakes
  obtain ⟨u, m, hleft, hu, hm, -⟩ := w.exists_of_takes_linear
    (by rw [← hsplit', ← List.append_assoc, ← hab]; exact htext) htakes
  obtain ⟨heq, -⟩ := l.eq_of_linear ht (fun k hk => by
    rcases htail with rfl | ⟨k', rfl, hk'⟩
    · cases hk
    · rwa [List.mem_singleton.mp hk]) hleft hm
  exact l.not_signThenQuiet (Side.isSome_sign_of_before hterms) hab hb heq hu

end PolynomialRelation.Written

end EquationTutor
