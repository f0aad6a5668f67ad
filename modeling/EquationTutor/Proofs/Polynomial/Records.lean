import EquationTutor.Proofs.Polynomial.QuadraticMatch
import EquationTutor.Reading.Extract

namespace EquationTutor

open PolynomialText Reading Pattern

namespace PolynomialText

variable {α : Type}

def linearRecord (m b c : α) (r : Relation) : Params α :=
  insertRelation
    (((Params.empty.insertNumber "m" m).insertNumber "b" b).insertNumber "c" c) r.operator

def quadraticRecord (a b c : α) (r : Relation) : Params α :=
  insertRelation
    (((Params.empty.insertNumber "a" a).insertNumber "b" b).insertNumber "c" c) r.operator

/-- An equation leaves its operator out. -/
def operatorEntries (α : Type) (r : Relation) : List (String × ParamValue α) :=
  if r = .eq then [] else [("operator", .text r.operator)]

theorem insertRelation_operator (p : Params α) (r : Relation) :
    insertRelation p r.operator =
      if r = .eq then p else p.insertText "operator" r.operator := by
  cases r <;> rfl

theorem entries_linearRecord (m b c : α) (r : Relation) : (linearRecord m b c r).entries =
    [("b", .number b), ("c", .number c), ("m", .number m)] ++ operatorEntries α r := by
  rw [linearRecord, insertRelation_operator, operatorEntries]
  split <;> rfl

theorem entries_quadraticRecord (a b c : α) (r : Relation) : (quadraticRecord a b c r).entries =
    [("a", .number a), ("b", .number b), ("c", .number c)] ++ operatorEntries α r := by
  rw [quadraticRecord, insertRelation_operator, operatorEntries]
  split <;> rfl

variable [Scalar α]

/-- The coefficient of the first term with the given power, 0 if there is none. -/
def coefficientOf (q : Power) (ts : List Term) : α :=
  (ts.find? fun t => t.power = q).elim 0 Term.coefficient

theorem coefficientOf_singleton {q : Power} {t : Term} (h : t.power = q) :
    coefficientOf q [t] = (t.coefficient : α) := by
  simp [coefficientOf, h]

theorem coefficientAt_of_leads {m : Match} {i : Nat} {c : Capture} {t : Term} {gap : List Char}
    (hgroup : m.groups.lookup i = some c) (h : t.Leads c.chars gap) :
    coefficientAt m i = (t.coefficient : α) := by
  rw [coefficientAt, Match.group, Match.group?, Match.capture?, hgroup]
  exact parseCoefficient_lead h

theorem termAt_eq_coefficientOf {m : Match} {i : Nat} {c : Capture} {q : Power} {ts : List Term}
    (hts : ts = [] ∨ ∃ t, ts = [t] ∧ t.power = q)
    (hgroup : m.groups.lookup i = (ts.map fun _ => (i, c)).lookup i)
    (h : ∀ t ∈ ts, ∃ gap, t.Leads c.chars gap) : termAt m i = (coefficientOf q ts : α) := by
  rw [termAt, Match.group?, Match.capture?, hgroup]
  rcases hts with rfl | ⟨t, rfl, ht⟩
  · rfl
  · obtain ⟨gap, hleads⟩ := h t (by simp)
    rw [coefficientOf_singleton ht]
    rw [List.map_singleton, List.lookup_cons_self]
    exact parseCoefficient_lead hleads

/-- The record is that of the terms that are found. -/
theorem quadratic_eq_of_find? {s : String} {m : Match} {t k : Term} {lins consts : List Term}
    {r : Relation} (hfind : Shape.quadratic.find? s = some m)
    (h : QuadraticGroups m.groups t lins consts r k)
    (hlins : lins = [] ∨ ∃ v, lins = [v] ∧ v.power = .linear)
    (hconsts : consts = [] ∨ ∃ k, consts = [k] ∧ k.power = .constant) :
    (quadratic s : Params α) = quadraticRecord t.coefficient (coefficientOf .linear lins)
      (coefficientOf .constant consts - k.coefficient) r := by
  obtain ⟨coefficient, linear, constant, operator, number, hgroups, ⟨_, hcoefficient⟩, hlinear,
    hconstant, hoperator, _, hnum⟩ := h
  have hb : m.groups.lookup 2 = (lins.map fun _ => (2, linear)).lookup 2 := by
    rw [hgroups]
    rcases hlins with rfl | ⟨v, rfl, -⟩ <;> rcases hconsts with rfl | ⟨k, rfl, -⟩ <;> rfl
  have hc : m.groups.lookup 3 = (consts.map fun _ => (3, constant)).lookup 3 := by
    rw [hgroups]
    rcases hlins with rfl | ⟨v, rfl, -⟩ <;> rcases hconsts with rfl | ⟨k, rfl, -⟩ <;> rfl
  have hrest : m.groups.lookup 4 = some operator ∧ m.groups.lookup 5 = some number := by
    rw [hgroups]
    rcases hlins with rfl | ⟨v, rfl, -⟩ <;> rcases hconsts with rfl | ⟨k, rfl, -⟩ <;>
      exact ⟨rfl, rfl⟩
  have hop : m.group 4 = r.operator := by
    rw [Match.group, Match.group?, Match.capture?, hrest.1]
    exact hoperator
  rw [quadratic, fromShape, hfind]
  simp only [hop]
  rw [coefficientAt_of_leads (by rw [hgroups]; rfl) hcoefficient,
    termAt_eq_coefficientOf hlins hb hlinear, termAt_eq_coefficientOf hconsts hc hconstant,
    coefficientAt_of_leads hrest.2 hnum]
  rfl

end PolynomialText

namespace PolynomialRelation.Written

variable {α : Type} [Scalar α] {p : PolynomialRelation} {s : String} (w : p.Written s.toList)
include w

theorem linear_eq {before tail : List Term} {t : Term}
    (hterms : p.left.terms = before ++ t :: tail) (ht : t.power = .linear)
    (htail : tail = [] ∨ ∃ k, tail = [k] ∧ k.power = .constant)
    (hnumber : p.right.first.factor.isSome = true) :
    (linear s : Params α) = linearRecord t.coefficient (coefficientOf .constant tail)
      p.right.first.coefficient p.relation := by
  obtain ⟨m, coefficient, constant, operator, number, hfind, hgroups, ⟨_, hcoefficient⟩, hconstant,
    hoperator, _, hnum⟩ := w.find?_linear hterms ht htail hnumber
  have hb : m.groups.lookup 2 = (tail.map fun _ => (2, constant)).lookup 2 := by
    rw [hgroups]
    rcases htail with rfl | ⟨k, rfl, -⟩ <;> rfl
  have hrest : m.groups.lookup 3 = some operator ∧ m.groups.lookup 4 = some number := by
    rw [hgroups]
    rcases htail with rfl | ⟨k, rfl, -⟩ <;> exact ⟨rfl, rfl⟩
  have hop : m.group 3 = p.relation.operator := by
    rw [Match.group, Match.group?, Match.capture?, hrest.1]
    exact hoperator
  rw [linear, fromShape, hfind]
  simp only [hop]
  rw [coefficientAt_of_leads (by rw [hgroups]; rfl) hcoefficient,
    termAt_eq_coefficientOf htail hb hconstant, coefficientAt_of_leads hrest.2 hnum]
  rfl

theorem linear_eq_empty (hnumber : p.right.first.factor = none) :
    (linear s : Params α) = .empty := by
  have hnone : Shape.linear.find? s = none := by
    refine find?_eq_none ?_
    rintro ⟨a, taken, rest, htext, htakes⟩
    obtain ⟨-, -, -, -, -, h⟩ := w.exists_of_takes_linear (by rw [htext, List.append_assoc]) htakes
    rw [hnumber] at h
    cases h
  rw [linear, fromShape, hnone]

theorem quadratic_eq {before lins consts : List Term} {t : Term}
    (hterms : p.left.terms = before ++ t :: (lins ++ consts)) (ht : t.power = .square)
    (hlins : lins = [] ∨ ∃ v, lins = [v] ∧ v.power = .linear)
    (hconsts : consts = [] ∨ ∃ k, consts = [k] ∧ k.power = .constant)
    (hnumber : p.right.first.factor.isSome = true) :
    (quadratic s : Params α) = quadraticRecord t.coefficient (coefficientOf .linear lins)
      (coefficientOf .constant consts - p.right.first.coefficient) p.relation := by
  obtain ⟨m, hfind, hgroups⟩ := w.find?_quadratic hterms ht hlins hconsts hnumber
  exact quadratic_eq_of_find? hfind hgroups hlins hconsts

theorem quadratic_eq_empty (h : ¬ ((∃ before t tail, p.left.terms = before ++ t :: tail ∧
      t.power = .square ∧ tail.map Term.power ∈ squareTails) ∧
      p.right.first.factor.isSome = true)) : (quadratic s : Params α) = .empty := by
  have hnone : Shape.quadratic.find? s = none :=
    find?_eq_none fun hwithin => h (w.exists_terms_of_within_quadratic hwithin)
  rw [quadratic, fromShape, hnone]

end PolynomialRelation.Written

end EquationTutor
