import EquationTutor.Proofs.Polynomial.Records
import EquationTutor.Proofs.RoundTrip.Sums

namespace EquationTutor

open PolynomialText Reading Pattern

namespace PolynomialText

def quadraticSide (a b c : Int) : Side where
  first := .ofInt true a .square
  rest := laterTerm b .linear ++ laterTerm c .constant
  isSome_sign := by
    intro t ht
    rcases List.mem_append.mp ht with ht | ht <;> exact isSome_sign_of_mem_laterTerm ht

def linearSide (m b : Int) : Side where
  first := .ofInt true m .linear
  rest := laterTerm b .constant
  isSome_sign := fun _ => isSome_sign_of_mem_laterTerm

theorem isSome_sign_of_mem_nil : ∀ t ∈ ([] : List Term), t.sign.isSome = true :=
  fun _ ht => absurd ht List.not_mem_nil

def constantSide (c : Int) : Side :=
  ⟨.ofInt true c .constant, [], isSome_sign_of_mem_nil⟩

section Printed

variable {x y z : Float} {a b c : Int}

theorem spaced_typedLater_nil : Spaced Text.isBlank [] (typedLater []) :=
  (spelled_flatten []).spaced

theorem spaced_shownQuadratic (hx : Double.IsInteger x a) (hy : Double.IsInteger y b)
    (hz : Double.IsInteger z c) (ha : a ≠ 0) :
    Spaced Text.isBlank (quadraticSide a b c).tokens (typed (shownQuadratic x y z "x")) := by
  have hlater := spaced_typedLater_cons hy (spaced_typedLater_cons hz spaced_typedLater_nil
    .constant) .linear
  change Spaced _ _ (typed (shownTerms [(x, Power.square.monomial), (y, Power.linear.monomial),
    (z, Power.constant.monomial)]))
  simpa [quadraticSide, Side.tokens, Side.terms] using spaced_shownTerms hx hlater .square ha

theorem spaced_shownLinear (hx : Double.IsInteger x a) (hy : Double.IsInteger y b) (ha : a ≠ 0) :
    Spaced Text.isBlank (linearSide a b).tokens (typed (shownLinear x y "x")) := by
  have hlater := spaced_typedLater_cons hy spaced_typedLater_nil .constant
  change Spaced _ _ (typed (shownTerms [(x, Power.linear.monomial), (y, Power.constant.monomial)]))
  simpa [linearSide, Side.tokens, Side.terms] using spaced_shownTerms hx hlater .linear ha

theorem spaced_shown (hx : Double.IsInteger x a) :
    Spaced Text.isBlank (constantSide a).tokens (typed (shown x)) := by
  obtain ⟨t, ht⟩ : ∃ t, Term.ofInt true a .constant = t := ⟨_, rfl⟩
  have hlead : Spaced Text.isBlank t.lead (t.mark ++ t.digits) :=
    t.spelled_mark.spaced.append t.spelled_digits.spaced
  have hpower : t.power.tokens = [] := by rw [← ht]; rfl
  rw [typed_shown hx, constantSide, ht]
  simpa [Side.tokens, Side.terms, Term.tokens, hpower] using hlead

theorem spaced_zero : Spaced Text.isBlank (constantSide 0).tokens (typed "0") :=
  (spelled_flatten [['0']]).spaced

end Printed

theorem laterTerm_cases (n : Int) (q : Power) :
    laterTerm n q = [] ∨ ∃ t, laterTerm n q = [t] ∧ t.power = q := by
  rw [laterTerm]
  split
  · exact Or.inl rfl
  · exact Or.inr ⟨_, rfl, rfl⟩

theorem power_of_mem_laterTerm {n : Int} {q : Power} {t : Term} (h : t ∈ laterTerm n q) :
    t.power = q := by
  rcases laterTerm_cases n q with hnil | ⟨u, hu, hpower⟩
  · rw [hnil] at h
    cases h
  · rw [hu] at h
    rw [List.mem_singleton.mp h, hpower]

theorem linearTail_laterTerm (n : Int) : LinearTail (laterTerm n .constant) := by
  rw [laterTerm]
  split
  · exact Or.inl rfl
  · exact Or.inr ⟨_, numeral n.natAbs, rfl, rfl, by simp [Term.factor_ofInt],
      Nat.toDigits_ne_nil⟩

theorem coefficientOf_laterTerm {n : Int} (hn : n.natAbs < 2 ^ 53) (q : Power) :
    coefficientOf q (laterTerm n q) = Float.ofInt n := by
  rw [laterTerm]
  split
  · rename_i h
    rw [h]
    rfl
  · have hpower : (Term.ofInt false n q).power = q := rfl
    rw [coefficientOf_singleton hpower, Term.coefficient_ofInt _ _ _ hn]

def unequalAlphabet : List Char :=
  ' ' :: (sideAlphabet ++ ['!', '='])

theorem lacks_unequalAlphabet : ∀ kind ∈ Kind.all.takeWhile (· ≠ .quadraticInequality),
    (recognizers kind).all (lacks unequalAlphabet) = true := by
  decide +kernel

section Spelled

variable {side right : Side} {r : Relation} {s : String}

theorem firstKind?_of_unequal
    (h : Spelled (· == ' ') (side.tokens ++ ['!', '='] :: right.tokens) s.toList)
    (hsquare : ∃ t ∈ side.terms, t.power = .square) :
    firstKind? s = some .quadraticInequality := by
  have halphabet : ∀ c ∈ s.toList, c ∈ unequalAlphabet := by
    intro c hc
    rcases mem_of_spelled h hc with hc | ⟨t, ht, hc⟩
    · obtain rfl : c = ' ' := by simpa using hc
      exact List.mem_cons_self
    · refine List.mem_cons_of_mem _ (List.mem_append.mpr ?_)
      rcases List.mem_append.mp ht with ht | ht
      · exact Or.inl ((Side.mem_tokens ht).2 c hc)
      · rcases List.mem_cons.mp ht with rfl | ht
        · exact Or.inr hc
        · exact Or.inl ((Side.mem_tokens ht).2 c hc)
  rw [firstKind?_eq_some_iff]
  constructor
  · obtain ⟨left, x, hs, hleft, g, rest, rfl, hg, hrest⟩ := spelled_append.mp h
    obtain ⟨a, b, b', m, rfl, hb, hb'⟩ := Side.exists_eq_of_square hleft hsquare
    refine ⟨_, List.mem_cons_self, a, 'x' :: (b ++ '^' :: (b' ++ ['2'])) ++ (m ++ ['!', '=']),
      g ++ rest, by simp [hs], _, _, rfl, takes_squared.mpr ⟨b, b', rfl, hb, hb'⟩, m, _, rfl, ?_,
      takes_inequalitySign.mpr (by simp)⟩
    rw [takes_manyExcept]
    intro c hc
    exact notMem_relationChars_of_mem_side c
      (mem_side_of_spelled (fun _ ht => (Side.mem_tokens ht).2) hleft c (by simp [hc]))
  · rintro k hk ⟨p, hp, hwithin⟩
    have hlacks := List.all_eq_true.mp (lacks_unequalAlphabet k hk)
    exact not_within_of_lacks (hlacks p hp) halphabet hwithin

variable (h : Spelled (· == ' ') (side.tokens ++ r.operator.toList :: right.tokens) s.toList)
include h

theorem firstKind?_of_square (hsquare : ∃ t ∈ side.terms, t.power = .square) :
    firstKind? s = some (if r = .eq then .standardQuadratic else .quadraticInequality) := by
  by_cases hr : r = .ne
  · subst hr
    exact firstKind?_of_unequal h hsquare
  · obtain ⟨w⟩ := PolynomialRelation.nonempty_written (p := ⟨side, r, right, hr⟩) h
    exact w.firstKind?_of_square hsquare

theorem quadratic_eq_of_spelled {α : Type} [Scalar α] {t : Term} {lins consts : List Term}
    (hterms : side.terms = t :: (lins ++ consts)) (ht : t.power = .square)
    (hlins : lins = [] ∨ ∃ v, lins = [v] ∧ v.power = .linear)
    (hconsts : consts = [] ∨ ∃ k, consts = [k] ∧ k.power = .constant)
    (hnumber : right.first.factor.isSome = true) :
    (quadratic s : Params α) = quadraticRecord t.coefficient (coefficientOf .linear lins)
      (coefficientOf .constant consts - right.first.coefficient) r := by
  obtain ⟨left, x, hs, hleft, spaces, behind, rfl, hspaces, hright⟩ := spelled_append.mp h
  have hterms : side.terms = [] ++ t :: (lins ++ consts) := hterms
  rw [Side.tokens, hterms] at hleft
  obtain ⟨l, hfront⟩ := exists_firstAt hleft
  obtain ⟨taken, rest, groups, hsplit, hbest, hgroups⟩ := best_quadratic (r := r)
    (by simpa using hspaces) hright hnumber hlins hconsts
    (Side.isSome_sign_of_tail hterms) l ht
  rw [hfront] at hbest
  have htext : s.toList = taken ++ rest := by
    rw [hs, l.text_eq, hfront, List.nil_append, ← hsplit]
    simp
  exact quadratic_eq_of_find? (find?_eq_some_of_start htext hbest) hgroups hlins hconsts

end Spelled

theorem operator_ne_nil (r : Relation) : r.operator.toList ≠ [] := by
  cases r <;> decide

/-- Up to blanks, the text is that of a relation between two sides. -/
def Prints (text : String) (left : Side) (r : Relation) (right : Side) : Prop :=
  Spaced Text.isBlank (left.tokens ++ r.operator.toList :: right.tokens) (typed text)

section Parse

variable {text : String} {a b c : Int} {r : Relation} (hb : b.natAbs < 2 ^ 53)

theorem Prints.spelled_normalize {left right : Side} (h : Prints text left r right) :
    Spelled (· == ' ') (left.tokens ++ r.operator.toList :: right.tokens)
      (Reading.normalize text).toList := by
  refine spelled_normalize_of_spaced ?_ h
  have hall : ∀ c ∈ sideAlphabet ++ relationChars, Text.isBlank c = false ∧ c ≠ '*' :=
    List.all_iff_forall_prop.mp (by decide)
  have hside (side : Side) : ∀ t ∈ side.tokens,
      t ≠ [] ∧ ∀ c ∈ t, Text.isBlank c = false ∧ c ≠ '*' := fun t ht =>
    ⟨(Side.mem_tokens ht).1, fun c hc =>
      hall c (List.mem_append_left _ ((Side.mem_tokens ht).2 c hc))⟩
  intro t ht
  rcases List.mem_append.mp ht with ht | ht
  · exact hside left t ht
  · rcases List.mem_cons.mp ht with rfl | ht
    · have hop : ∀ c ∈ r.operator.toList, c ∈ relationChars := by
        cases r <;> exact List.all_iff_forall_prop.mp (by decide)
      exact ⟨operator_ne_nil r, fun c hc => hall c (List.mem_append_right _ (hop c hc))⟩
    · exact hside right t ht

include hb

theorem parseProblem_quadratic (ha : a.natAbs < 2 ^ 53) (hc : c.natAbs < 2 ^ 53)
    (h : Prints text (quadraticSide a b c) r (constantSide 0)) :
    ∃ problem : Problem Float, parseProblem ⟨some text, none, none, none, none⟩ = .ok problem ∧
      problem.kind = (if r = .eq then .standardQuadratic else .quadraticInequality) ∧
      problem.parameters =
        quadraticRecord (Float.ofInt a) (Float.ofInt b) (Float.ofInt c) r := by
  have hspelled := h.spelled_normalize
  obtain ⟨problem, hparse, hkind, hparameters⟩ := parseProblem_of_firstKind? (α := Float) none
    (ne_empty_of_spelled hspelled (t := r.operator.toList) (by simp) (operator_ne_nil r))
    (firstKind?_of_square hspelled ⟨_, List.mem_cons_self, rfl⟩) (by split <;> decide)
  refine ⟨problem, hparse, hkind, ?_⟩
  have hextract : problem.parameters = quadratic (Reading.normalize text) := by
    rw [hparameters]
    split <;> rfl
  have hright : ((constantSide 0).first.coefficient : Float) = Float.ofInt 0 :=
    Term.coefficient_ofInt true 0 .constant (by decide)
  have hdifference : (Float.ofInt c - Float.ofInt 0 : Float) = Float.ofInt c :=
    Double.ofInt_sub_zero hc
  rw [hextract, quadratic_eq_of_spelled hspelled (t := Term.ofInt true a .square) rfl rfl
    (laterTerm_cases b .linear) (laterTerm_cases c .constant)
    (Term.isSome_factor_ofInt true 0), Term.coefficient_ofInt _ _ _ ha,
    coefficientOf_laterTerm hb, coefficientOf_laterTerm hc, hright]
  exact congrArg (fun d => quadraticRecord (Float.ofInt a) (Float.ofInt b) d r) hdifference

theorem parseProblem_linear (ha : a.natAbs < 2 ^ 53) (hc : c.natAbs < 2 ^ 53) (hr : r ≠ .ne)
    (h : Prints text (linearSide a b) r (constantSide c)) :
    ∃ problem : Problem Float, parseProblem ⟨some text, none, none, none, none⟩ = .ok problem ∧
      problem.kind = (if r = .eq then .simpleLinear else .linearInequality) ∧
      problem.parameters = linearRecord (Float.ofInt a) (Float.ofInt b) (Float.ofInt c) r := by
  have hspelled := h.spelled_normalize
  obtain ⟨w⟩ := PolynomialRelation.nonempty_written
    (p := ⟨linearSide a b, r, constantSide c, hr⟩) hspelled
  have hsquare : ∀ t ∈ (linearSide a b).terms, t.power ≠ .square := by
    intro t ht
    rcases List.mem_cons.mp ht with rfl | ht
    · exact Power.noConfusion
    · rw [power_of_mem_laterTerm ht]
      decide
  obtain ⟨problem, hparse, hkind, hparameters⟩ := parseProblem_of_firstKind? (α := Float) none
    (ne_empty_of_spelled hspelled (t := r.operator.toList) (by simp) (operator_ne_nil r))
    (w.firstKind?_of_endsInX hsquare ⟨[], _, _, rfl, rfl, linearTail_laterTerm b⟩
      fun _ => Term.isSome_factor_ofInt true c) (by split <;> decide)
  refine ⟨problem, hparse, hkind, ?_⟩
  have hterms : (linearSide a b).terms =
      [] ++ Term.ofInt true a .linear :: laterTerm b .constant := rfl
  have hextract : problem.parameters = linear (Reading.normalize text) := by
    rw [hparameters]
    split <;> rfl
  rw [hextract, w.linear_eq hterms rfl (laterTerm_cases b .constant)
    (Term.isSome_factor_ofInt true c)]
  change linearRecord (Term.ofInt true a .linear).coefficient
    (coefficientOf .constant (laterTerm b .constant))
    (Term.ofInt true c .constant).coefficient r = _
  rw [Term.coefficient_ofInt _ _ _ ha, coefficientOf_laterTerm hb, Term.coefficient_ofInt _ _ _ hc]

end Parse

end PolynomialText

end EquationTutor
