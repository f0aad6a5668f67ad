import EquationTutor.Proofs.Polynomial.Rounding
import EquationTutor.Reading.Parse
import EquationTutor.Solve.Dispatch
import Mathlib.Algebra.Polynomial.Basic
import Mathlib.Tactic.LinearCombination
/-!
When the problem that is read from the text of a polynomial relation is the relation itself.
Reading keeps the last term with the highest power that a kind looks for, what stands between
it and the operator, and the first number on the right. The other terms are dropped, so that
the problem is the relation if and only if these sum to the same on both sides and no number
that is kept is too great for a double.
-/

open Polynomial

namespace EquationTutor

open PolynomialText Reading Double

namespace PolynomialText

noncomputable def Term.polynomial (t : Term) : ℝ[X] :=
  C (t.number : ℝ) * X ^ t.power.degree

noncomputable def sumOf (ts : List Term) : ℝ[X] :=
  (ts.map Term.polynomial).sum

end PolynomialText

namespace PolynomialRelation

noncomputable def difference (p : PolynomialRelation) : ℝ[X] :=
  sumOf p.left.terms - sumOf p.right.terms

/-- The left side is read from `t` on: a last square with at most a multiple of `x` and a
constant behind it, or, where there is none, a multiple of `x` with at most a constant. The
right side starts with a number. -/
structure ReadFrom (p : PolynomialRelation) (before : List Term) (t : Term) (tail : List Term) :
    Prop where
  terms_eq : p.left.terms = before ++ t :: tail
  isSome_factor : p.right.first.factor.isSome = true
  power : t.power = .square ∧ tail.map Term.power ∈ squareTails ∨
    (∀ u ∈ p.left.terms, u.power ≠ .square) ∧ t.power = .linear ∧ LinearTail tail

/-- The numbers that are read are in the range of the doubles, and behind a square so is the
difference of the two constants. -/
structure InRange (p : PolynomialRelation) (t : Term) (tail : List Term) : Prop where
  number_lt : ∀ u ∈ p.right.first :: t :: tail, |u.number| < overflowBound
  difference_lt : t.power = .square →
    |rational (coefficientOf .constant tail) - rational p.right.first.coefficient| < overflowBound

end PolynomialRelation

namespace Problem

/-- What the solver of a linear or quadratic kind compares with 0. -/
noncomputable def polynomial (problem : Problem ℝ) : ℝ[X] :=
  let r := problem.parameters
  if problem.kind.family = .linear then
    C (r.numberD "m" 0) * X + C (r.numberD "b" 0) - C (r.numberD "c" 0)
  else C (r.numberD "a" 1) * X ^ 2 + C (r.numberD "b" 0) * X + C (r.numberD "c" 0)

/-- Equations leave their operator out. -/
def relation (problem : Problem ℝ) : Relation :=
  ((problem.parameters.text? "operator").bind Relation.ofString?).getD .eq

end Problem

/-- A text with nothing else that is said about it. -/
def Reading.Question.ofText {α : Type} (text : String) (context : Option String) : Question α :=
  ⟨some text, none, none, none, context⟩

/-- A text of the relation is not misread: it is refused by the reader or by the solver, or the
record of doubles that is extracted is the one that is read in exact numbers, each of them kept
as a double, and that one denotes the relation. -/
def Faithful (p : PolynomialRelation) (text : String) (context : Option String) : Prop :=
  ∀ problem : Problem Float, parseProblem (Question.ofText text context) = .ok problem →
    if problem.kind ∈ polynomialKinds ∧ problem.parameters.isEmpty = false then
      ∃ exact : Problem ℝ, parseProblem (Question.ofText text context) = .ok exact ∧
        exact.kind = problem.kind ∧ p.KeepsRecord problem.parameters exact.parameters ∧
        exact.polynomial = p.difference ∧ exact.relation = p.relation
    else ∃ e, problem.solve = .error e

section Record

variable {problem : Problem ℝ} {r : Relation}

theorem text?_operator {p : Params ℝ} {entries : List (String × ParamValue ℝ)}
    (h : p.entries = entries ++ operatorEntries ℝ r)
    (hentries : entries.lookup "operator" = none) (hne : r ≠ .ne) :
    ((p.text? "operator").bind Relation.ofString?).getD .eq = r := by
  have hget : p.get? "operator" = (operatorEntries ℝ r).lookup "operator" := by
    rw [Params.get?, h, List.lookup_append, hentries, Option.none_or]
  rw [Params.text?, hget]
  cases r with
  | eq => rfl
  | ne => exact absurd rfl hne
  | _ => rfl

theorem polynomial_linear {m b c : ℝ}
    (hfamily : problem.kind.family = .linear) (h : problem.parameters = linearRecord m b c r) :
    problem.polynomial = C m * X + C b - C c := by
  have hvalues (d : ℝ) : problem.parameters.numberD "m" d = m ∧
      problem.parameters.numberD "b" d = b ∧ problem.parameters.numberD "c" d = c := by
    simp [h, Params.numberD, Params.number?, Params.get?, entries_linearRecord, List.lookup_cons,
      ParamValue.toNumber]
  simp [Problem.polynomial, hfamily, hvalues]

theorem polynomial_quadratic {a b c : ℝ}
    (hfamily : problem.kind.family ≠ .linear) (h : problem.parameters = quadraticRecord a b c r) :
    problem.polynomial = C a * X ^ 2 + C b * X + C c := by
  have hvalues (d : ℝ) : problem.parameters.numberD "a" d = a ∧
      problem.parameters.numberD "b" d = b ∧ problem.parameters.numberD "c" d = c := by
    simp [h, Params.numberD, Params.number?, Params.get?, entries_quadraticRecord, List.lookup_cons,
      ParamValue.toNumber]
  simp [Problem.polynomial, hfamily, hvalues]

theorem sumOf_append (ts us : List Term) : sumOf (ts ++ us) = sumOf ts + sumOf us := by
  simp [sumOf]

theorem sumOf_cons (t : Term) (ts : List Term) : sumOf (t :: ts) = t.polynomial + sumOf ts := by
  simp [sumOf]

/-- At most one term of a power is that power times its number. -/
theorem sumOf_eq {q : Power} {ts : List Term} (h : ts = [] ∨ ∃ t, ts = [t] ∧ t.power = q) :
    sumOf ts = C (numberOf q ts : ℝ) * X ^ q.degree := by
  rcases h with rfl | ⟨t, rfl, rfl⟩ <;> simp [sumOf, Term.polynomial, numberOf]

end Record

section Parse

variable (α : Type) [Scalar α]

theorem solve_of_empty {problem : Problem Float} (hkind : problem.kind ∈ polynomialKinds)
    (h : problem.parameters = .empty) : ∃ e, problem.solve = .error e := by
  rw [Problem.solve, h]
  simp only [polynomialKinds, List.mem_cons, List.not_mem_nil, or_false] at hkind
  rcases hkind with h | h | h | h <;> rw [h] <;> exact ⟨_, rfl⟩

variable {text : String} (context : Option String)

theorem parseProblem_error (hne : normalize text ≠ "")
    (h : firstKind? (normalize text) = none) :
    ∃ e, parseProblem (Question.ofText text context : Question α) = .error e :=
  ⟨_, parseProblem_of_firstKind?_eq_none context hne h⟩

theorem parseProblem_ok (hne : normalize text ≠ "") {kind : Kind}
    (h : firstKind? (normalize text) = some kind) (hkind : kind ∈ polynomialKinds) :
    ∃ problem : Problem α, parseProblem (Question.ofText text context) = .ok problem ∧
      problem.kind = kind ∧ problem.parameters = extract kind (normalize text) none := by
  have hnot : kind ≠ .exponentialQuadratic := by
    rintro rfl
    revert hkind
    decide
  exact parseProblem_of_firstKind? context hne h hnot

end Parse

section ReadFrom

variable {p : PolynomialRelation} {before tail : List Term} {t : Term} {text : String}

theorem PolynomialRelation.Written.ne_empty {s : String} (w : p.Written s.toList) : s ≠ "" := by
  rintro rfl
  obtain ⟨c, rest, hop, -⟩ := w.exists_operator
  have htext := w.text_eq
  rw [hop] at htext
  simp at htext

/-- The record that is read from the term `t` on. -/
def PolynomialRelation.recordFrom (α : Type) [Scalar α] (p : PolynomialRelation) (t : Term)
    (tail : List Term) : Params α :=
  if t.power = .square then
    quadraticRecord t.coefficient (coefficientOf .linear tail)
      (coefficientOf .constant tail - p.right.first.coefficient) p.relation
  else linearRecord t.coefficient (coefficientOf .constant tail) p.right.first.coefficient p.relation

/-- At most one term of each power stands behind a square, and is found there. -/
theorem exists_found_of_squareTail (h : tail.map Term.power ∈ squareTails) :
    ∃ lins consts, tail = lins ++ consts ∧ (lins = [] ∨ ∃ v, lins = [v] ∧ v.power = .linear) ∧
      (consts = [] ∨ ∃ k, consts = [k] ∧ k.power = .constant) ∧
      (tail.find? fun u => u.power = .linear) = lins.find? (fun u => u.power = .linear) ∧
      (tail.find? fun u => u.power = .constant) = consts.find? fun u => u.power = .constant := by
  obtain ⟨lins, consts, rfl, hlins, hconsts⟩ := exists_split_of_squareTail h
  refine ⟨lins, consts, rfl, hlins, hconsts, ?_⟩
  rcases hlins with rfl | ⟨v, rfl, hv⟩ <;> rcases hconsts with rfl | ⟨k, rfl, hk⟩ <;> simp [*]

theorem PolynomialRelation.inRange_iff : p.InRange t tail ↔
    (|p.right.first.number| < overflowBound ∧ |t.number| < overflowBound ∧
      ∀ u ∈ tail, |u.number| < overflowBound) ∧
    (t.power = .square →
      |rational (coefficientOf .constant tail) - rational p.right.first.coefficient| <
        overflowBound) := by
  constructor
  · rintro ⟨hnumber, hdifference⟩
    exact ⟨by simpa using hnumber, hdifference⟩
  · rintro ⟨hnumber, hdifference⟩
    exact ⟨by simpa using hnumber, hdifference⟩

namespace PolynomialRelation.ReadFrom

variable (h : p.ReadFrom before t tail)
include h

/-- Over any numbers the same kind and the record from the term on are read. -/
theorem parseProblem_eq (hwrites : p.Writes text) (context : Option String) :
    ∃ kind ∈ polynomialKinds, (kind.family = .linear ↔ t.power ≠ .square) ∧
      ∀ (α : Type) [Scalar α], ∃ problem : Problem α,
        parseProblem (Question.ofText text context) = .ok problem ∧ problem.kind = kind ∧
          problem.parameters = p.recordFrom α t tail := by
  obtain ⟨w⟩ := nonempty_written (spelled_normalize hwrites)
  rcases h.power with ⟨ht, htail⟩ | ⟨hsquare, ht, htail⟩
  · obtain ⟨lins, consts, rfl, hlins, hconsts, hfind, hfind'⟩ := exists_found_of_squareTail htail
    have hfirst := w.firstKind?_of_square ⟨t, by simp [h.terms_eq], ht⟩
    have hkind : (if p.relation = .eq then Kind.standardQuadratic else .quadraticInequality) ∈
        polynomialKinds := by
      split <;> decide
    refine ⟨_, hkind, ?_, fun α _ => ?_⟩
    · rw [ht]
      split <;> decide
    · obtain ⟨problem, hparse, hproblem, hparameters⟩ :=
        parseProblem_ok α context w.ne_empty hfirst hkind
      refine ⟨problem, hparse, hproblem, ?_⟩
      rw [hparameters, recordFrom, if_pos ht, coefficientOf, coefficientOf, hfind, hfind']
      change _ = quadraticRecord t.coefficient (coefficientOf .linear lins)
        (coefficientOf .constant consts - p.right.first.coefficient) p.relation
      rw [← w.quadratic_eq h.terms_eq ht hlins hconsts h.isSome_factor]
      split <;> rfl
  · have hfirst := w.firstKind?_of_endsInX hsquare ⟨before, t, tail, h.terms_eq, ht, htail⟩
      fun _ => h.isSome_factor
    have hkind : (if p.relation = .eq then Kind.simpleLinear else .linearInequality) ∈
        polynomialKinds := by
      split <;> decide
    refine ⟨_, hkind, ?_, fun α _ => ?_⟩
    · rw [ht]
      split <;> decide
    · obtain ⟨problem, hparse, hproblem, hparameters⟩ :=
        parseProblem_ok α context w.ne_empty hfirst hkind
      have hlinear : ¬ t.power = .square := by
        rw [ht]
        decide
      refine ⟨problem, hparse, hproblem, ?_⟩
      rw [hparameters, recordFrom, if_neg hlinear,
        ← w.linear_eq h.terms_eq ht htail.eq_nil_or_constant h.isSome_factor]
      split <;> rfl

/-- In exact numbers it is the sum from the term on, less the first number of the right side. -/
theorem polynomial_eq {problem : Problem ℝ}
    (hkind : problem.kind.family = .linear ↔ t.power ≠ .square)
    (hparameters : problem.parameters = p.recordFrom ℝ t tail) :
    problem.polynomial = t.polynomial + sumOf tail - C (p.right.first.number : ℝ) := by
  rcases h.power with ⟨ht, htail⟩ | ⟨-, ht, htail⟩
  · obtain ⟨lins, consts, rfl, hlins, hconsts, hfind, hfind'⟩ := exists_found_of_squareTail htail
    have hfamily : problem.kind.family ≠ .linear := fun hlinear => hkind.mp hlinear ht
    rw [recordFrom, if_pos ht, coefficientOf_eq_numberOf, coefficientOf_eq_numberOf,
      Term.coefficient_eq_number, Term.coefficient_eq_number, numberOf, numberOf, hfind,
      hfind'] at hparameters
    rw [polynomial_quadratic hfamily hparameters, sumOf_append, sumOf_eq hlins, sumOf_eq hconsts,
      Term.polynomial, ht]
    simp only [Power.degree, pow_one, pow_zero, mul_one, C_sub, numberOf]
    ring
  · have hlinear : t.power ≠ .square := by
      rw [ht]
      decide
    rw [recordFrom, if_neg hlinear, coefficientOf_eq_numberOf, Term.coefficient_eq_number,
      Term.coefficient_eq_number] at hparameters
    rw [polynomial_linear (hkind.mpr hlinear) hparameters, sumOf_eq htail.eq_nil_or_constant,
      Term.polynomial, ht]
    simp only [Power.degree, pow_one, pow_zero, mul_one]

theorem keepsRecord_iff : p.KeepsRecord (p.recordFrom Float t tail) (p.recordFrom ℝ t tail) ↔
    p.InRange t tail := by
  have hfirst : p.right.first.number ∈ p.right.terms.map Term.number := List.mem_cons_self
  rcases h.power with ⟨ht, htail⟩ | ⟨-, ht, htail⟩
  · have hconstant : numberOf .constant tail ∈ 0 :: p.left.terms.map Term.number := by
      have hsubset : tail ⊆ p.left.terms := fun u hu => by simp [h.terms_eq, hu]
      exact List.cons_subset_cons 0 (List.map_subset Term.number hsubset) (numberOf_mem _ tail)
    rw [recordFrom, recordFrom, if_pos ht, if_pos ht, keepsRecord_quadratic_iff,
      Term.coefficient_eq_number, Term.coefficient_eq_number, coefficientOf_eq_numberOf,
      coefficientOf_eq_numberOf, ← Rat.cast_sub, keeps_iff t.roundsTo_coefficient,
      keeps_iff (roundsTo_coefficientOf _ _),
      keeps_sub_iff hconstant hfirst (roundsTo_coefficientOf _ _)
        p.right.first.roundsTo_coefficient]
    obtain ⟨lins, consts, rfl, hlins, hconsts, hfind, hfind'⟩ := exists_found_of_squareTail htail
    have hb : |numberOf .linear (lins ++ consts)| < overflowBound ↔
        ∀ u ∈ lins, |u.number| < overflowBound := by
      rw [numberOf, hfind]
      exact abs_numberOf_lt_iff hlins
    have hc : |numberOf .constant (lins ++ consts)| < overflowBound ↔
        ∀ u ∈ consts, |u.number| < overflowBound := by
      rw [numberOf, hfind']
      exact abs_numberOf_lt_iff hconsts
    rw [hb, hc, inRange_iff, List.forall_mem_append]
    constructor
    · rintro ⟨ht, hlins, hconsts, hfirst, hdifference⟩
      exact ⟨⟨hfirst, ht, hlins, hconsts⟩, fun _ => hdifference⟩
    · rintro ⟨⟨hfirst, hnumber, hlins, hconsts⟩, hdifference⟩
      exact ⟨hnumber, hlins, hconsts, hfirst, hdifference ht⟩
  · have hlinear : t.power ≠ .square := by
      rw [ht]
      decide
    rw [recordFrom, recordFrom, if_neg hlinear, if_neg hlinear, keepsRecord_linear_iff,
      Term.coefficient_eq_number, Term.coefficient_eq_number, coefficientOf_eq_numberOf,
      keeps_iff t.roundsTo_coefficient, keeps_iff (roundsTo_coefficientOf _ _),
      keeps_iff p.right.first.roundsTo_coefficient,
      abs_numberOf_lt_iff htail.eq_nil_or_constant, inRange_iff]
    constructor
    · rintro ⟨ht, htail, hfirst⟩
      exact ⟨⟨hfirst, ht, htail⟩, fun hsquare => absurd hsquare hlinear⟩
    · rintro ⟨⟨hfirst, ht, htail⟩, -⟩
      exact ⟨ht, htail, hfirst⟩

theorem difference_eq :
    p.difference = sumOf before + (t.polynomial + sumOf tail) - sumOf p.right.terms := by
  rw [PolynomialRelation.difference, h.terms_eq, sumOf_append, sumOf_cons]

omit h in
theorem isEmpty_recordFrom : (p.recordFrom Float t tail).isEmpty = false := by
  rw [recordFrom]
  split
  · rw [Params.isEmpty, entries_quadraticRecord]
    rfl
  · rw [Params.isEmpty, entries_linearRecord]
    rfl

omit h in
theorem relation_eq {problem : Problem ℝ}
    (hparameters : problem.parameters = p.recordFrom ℝ t tail) :
    problem.relation = p.relation := by
  rw [recordFrom] at hparameters
  split at hparameters
  · exact text?_operator (hparameters ▸ entries_quadraticRecord ..) rfl p.relation_ne
  · exact text?_operator (hparameters ▸ entries_linearRecord ..) rfl p.relation_ne

theorem faithful_iff (hwrites : p.Writes text) (context : Option String) :
    Faithful p text context ↔
      sumOf before = sumOf p.right.terms - C (p.right.first.number : ℝ) ∧ p.InRange t tail := by
  obtain ⟨kind, hkind, hfamily, hread⟩ := h.parseProblem_eq hwrites context
  obtain ⟨problem, hparse, rfl, hparameters⟩ := hread Float
  obtain ⟨exact, hexact, hsame, hexactParameters⟩ := hread ℝ
  have hpolynomial := h.polynomial_eq (hsame ▸ hfamily) hexactParameters
  have hrecord : p.KeepsRecord problem.parameters exact.parameters ↔ p.InRange t tail := by
    rw [hparameters, hexactParameters, h.keepsRecord_iff]
  have hdropped : exact.polynomial = p.difference ↔
      sumOf before = sumOf p.right.terms - C (p.right.first.number : ℝ) := by
    rw [hpolynomial, h.difference_eq]
    constructor
    · intro heq
      linear_combination -heq
    · intro heq
      linear_combination -heq
  have hread : problem.kind ∈ polynomialKinds ∧ problem.parameters.isEmpty = false :=
    ⟨hkind, hparameters ▸ isEmpty_recordFrom⟩
  rw [← hdropped, ← hrecord]
  constructor
  · intro hfaithful
    have hproblem := hfaithful problem hparse
    rw [if_pos hread, hexact] at hproblem
    obtain ⟨other, hother, -, hkeeps, hpolynomial, -⟩ := hproblem
    obtain rfl := Except.ok.inj hother
    exact ⟨hpolynomial, hkeeps⟩
  · rintro ⟨hpolynomial, hkeeps⟩ other hother
    obtain rfl := Except.ok.inj (hparse.symm.trans hother)
    rw [if_pos hread]
    exact ⟨exact, hexact, hsame, hkeeps, hpolynomial, relation_eq hexactParameters⟩

end PolynomialRelation.ReadFrom

theorem PolynomialRelation.Written.faithful_of_extract_eq_empty
    (w : p.Written (normalize text).toList) (context : Option String) {kind : Kind}
    (hkind : kind ∈ polynomialKinds) (hfirst : firstKind? (normalize text) = some kind)
    (hextract : extract kind (normalize text) none = (.empty : Params Float)) :
    Faithful p text context := by
  obtain ⟨problem, hparse, rfl, hparameters⟩ :=
    parseProblem_ok Float context w.ne_empty hfirst hkind
  intro other hother
  obtain rfl := Except.ok.inj (hparse.symm.trans hother)
  rw [hextract] at hparameters
  rw [if_neg]
  · exact solve_of_empty hkind hparameters
  · rw [hparameters]
    rintro ⟨-, h⟩
    cases h

/-- Where no term is read, the text is refused or nothing is extracted. -/
theorem PolynomialRelation.faithful_of_not_readFrom
    (hnone : ¬ ∃ before t tail, p.ReadFrom before t tail) (hwrites : p.Writes text)
    (context : Option String) : Faithful p text context := by
  obtain ⟨w⟩ := nonempty_written (spelled_normalize hwrites)
  by_cases hsquare : ∃ t ∈ p.left.terms, t.power = .square
  · have hquadratic : (quadratic (normalize text) : Params Float) = .empty := by
      refine w.quadratic_eq_empty ?_
      rintro ⟨⟨before, t, tail, hterms, ht, htail⟩, hnumber⟩
      exact hnone ⟨before, t, tail, hterms, hnumber, Or.inl ⟨ht, htail⟩⟩
    refine w.faithful_of_extract_eq_empty context ?_ (w.firstKind?_of_square hsquare) ?_
    · split <;> decide
    · split <;> exact hquadratic
  · have hsquare : ∀ t ∈ p.left.terms, t.power ≠ .square := by
      intro t ht hpower
      exact hsquare ⟨t, ht, hpower⟩
    by_cases hx : p.left.EndsInX ∧ (p.relation = .eq → p.right.first.factor.isSome = true)
    · have hfactor : p.right.first.factor = none := by
        by_contra hsome
        obtain ⟨before, t, tail, hterms, ht, htail⟩ := hx.1
        exact hnone ⟨before, t, tail, hterms, Option.isSome_iff_ne_none.mpr hsome,
          Or.inr ⟨hsquare, ht, htail⟩⟩
      have hlinear : (linear (normalize text) : Params Float) = .empty := w.linear_eq_empty hfactor
      refine w.faithful_of_extract_eq_empty context ?_
        (w.firstKind?_of_endsInX hsquare hx.1 hx.2) ?_
      · split <;> decide
      · split <;> exact hlinear
    · obtain ⟨e, he⟩ := parseProblem_error Float context w.ne_empty
        (w.firstKind?_eq_none hsquare hx)
      intro problem hok
      rw [he] at hok
      cases hok

/-- A relation is not misread if and only if the terms that are dropped, on the left before
the term that is read and on the right behind the first number, have the same sum, and the
numbers that are kept are in the range of the doubles. -/
theorem PolynomialRelation.faithful_parseProblem_iff (hwrites : p.Writes text)
    (context : Option String) :
    Faithful p text context ↔
      ∀ before t tail, p.ReadFrom before t tail →
        sumOf before = sumOf p.right.terms - C (p.right.first.number : ℝ) ∧ p.InRange t tail := by
  constructor
  · intro h before t tail hread
    exact (hread.faithful_iff hwrites context).mp h
  · intro h
    by_cases hread : ∃ before t tail, p.ReadFrom before t tail
    · obtain ⟨before, t, tail, hread⟩ := hread
      exact (hread.faithful_iff hwrites context).mpr (h before t tail hread)
    · exact faithful_of_not_readFrom hread hwrites context

end ReadFrom

section Examples

def PolynomialText.Term.ofDigit (sign : Option Sign) (d : Char) (h : d.isDigit = true)
    (power : Power) : Term :=
  ⟨sign, some ⟨[d], [], by simpa using h, by simp, by simp⟩, power, fun _ => rfl⟩

theorem number_ofDigit (sign : Option Sign) (d : Char) (h : d.isDigit = true) (power : Power) :
    (Term.ofDigit sign d h power).number =
      if sign = some .minus then -(Literal.natOfDigits [d] : ℚ) else Literal.natOfDigits [d] := by
  simp [Term.number, Term.ofDigit, Unsigned.number]

theorem abs_number_ofDigit_lt (sign : Option Sign) (d : Char) (h : d.isDigit = true)
    (power : Power) : |(Term.ofDigit sign d h power).number| < overflowBound := by
  have hdigit : Literal.natOfDigits [d] ≤ 9 := by
    obtain ⟨-, hupper⟩ : 48 ≤ d.toNat ∧ d.toNat ≤ 57 := by
      simpa [Char.isDigit, UInt32.le_iff_toNat_le] using h
    change 10 * 0 + (d.toNat - 48) ≤ 9
    omega
  have habs : |(Term.ofDigit sign d h power).number| = Literal.natOfDigits [d] := by
    rw [number_ofDigit]
    split <;> simp
  rw [habs]
  exact lt_overflowBound (by exact_mod_cast hdigit.trans (by decide))

/-- The relation of `2x + 3 = 7`. -/
def twoXPlusThree : PolynomialRelation where
  left := ⟨Term.ofDigit none '2' rfl .linear, [Term.ofDigit (some .plus) '3' rfl .constant],
    by simp [Term.ofDigit]⟩
  relation := .eq
  right := ⟨Term.ofDigit none '7' rfl .constant, [], by simp⟩
  relation_ne := by decide

theorem faithful_twoXPlusThree : twoXPlusThree.Writes "2x + 3 = 7" ∧
    Faithful twoXPlusThree "2x + 3 = 7" none := by
  have hspace : ∀ c ∈ [' '], Text.isBlank c = true :=
    List.all_iff_forall_prop.mp (by decide)
  have hwrites : twoXPlusThree.Writes "2x + 3 = 7" :=
    ⟨[], "2x + 3 = 7".toList, rfl, by simp, [], _, rfl, by simp, [' '], _, rfl, hspace,
      [' '], _, rfl, hspace, [' '], _, rfl, hspace, [' '], _, rfl, hspace, [], _, rfl, by simp,
      rfl⟩
  refine ⟨hwrites, (PolynomialRelation.faithful_parseProblem_iff hwrites none).mpr ?_⟩
  rintro before t tail ⟨hterms, -, hpower⟩
  have hlinear : t.power ≠ .constant := by
    rcases hpower with ⟨h, -⟩ | ⟨-, h, -⟩ <;> rw [h] <;> decide
  -- the first term is read, so that none is dropped
  rcases before with _ | ⟨u, _ | ⟨v, before⟩⟩
  · obtain ⟨rfl, rfl⟩ := List.cons.inj hterms
    have hright : sumOf twoXPlusThree.right.terms =
        C (twoXPlusThree.right.first.number : ℝ) := by
      simp [sumOf, twoXPlusThree, Side.terms, Term.polynomial, Term.ofDigit, Power.degree]
    refine ⟨by rw [hright, sub_self]; rfl, ⟨?_, fun h => absurd h (by decide)⟩⟩
    intro u hu
    simp only [twoXPlusThree, List.mem_cons, List.not_mem_nil, or_false] at hu
    rcases hu with rfl | rfl | rfl <;> exact abs_number_ofDigit_lt _ _ _ _
  · obtain ⟨-, hterms⟩ := List.cons.inj hterms
    obtain ⟨rfl, -⟩ := List.cons.inj hterms
    exact absurd rfl hlinear
  · obtain ⟨-, hterms⟩ := List.cons.inj hterms
    obtain ⟨-, hterms⟩ := List.cons.inj hterms
    simp at hterms

/-- The relation of `3 + 2x = 7`. -/
def threePlusTwoX : PolynomialRelation where
  left := ⟨Term.ofDigit none '3' rfl .constant, [Term.ofDigit (some .plus) '2' rfl .linear],
    by simp [Term.ofDigit]⟩
  relation := .eq
  right := ⟨Term.ofDigit none '7' rfl .constant, [], by simp⟩
  relation_ne := by decide

theorem not_faithful_threePlusTwoX : threePlusTwoX.Writes "3 + 2x = 7" ∧
    ¬ Faithful threePlusTwoX "3 + 2x = 7" none := by
  have hspace : ∀ c ∈ [' '], Text.isBlank c = true :=
    List.all_iff_forall_prop.mp (by decide)
  have hwrites : threePlusTwoX.Writes "3 + 2x = 7" :=
    ⟨[], "3 + 2x = 7".toList, rfl, by simp, [' '], _, rfl, hspace, [' '], _, rfl, hspace,
      [], _, rfl, by simp, [' '], _, rfl, hspace, [' '], _, rfl, hspace, [], _, rfl, by simp,
      rfl⟩
  have hread : threePlusTwoX.ReadFrom [Term.ofDigit none '3' rfl .constant]
      (Term.ofDigit (some .plus) '2' rfl .linear) [] :=
    ⟨rfl, rfl, Or.inr ⟨by decide, rfl, Or.inl rfl⟩⟩
  refine ⟨hwrites, fun h => ?_⟩
  obtain ⟨heq, -⟩ := (hread.faithful_iff hwrites none).mp h
  have hright : sumOf threePlusTwoX.right.terms =
      C (threePlusTwoX.right.first.number : ℝ) := by
    simp [sumOf, threePlusTwoX, Side.terms, Term.polynomial, Term.ofDigit, Power.degree]
  rw [hright, sub_self] at heq
  have hpower : (Term.ofDigit none '3' rfl .constant).power.degree = 0 := rfl
  have hthree : (Literal.natOfDigits ['3'] : ℝ) = 0 := by
    simpa [sumOf, Term.polynomial, number_ofDigit, hpower] using heq
  have hdigits : Literal.natOfDigits ['3'] = 3 := rfl
  norm_num [hdigits] at hthree

end Examples

end EquationTutor
