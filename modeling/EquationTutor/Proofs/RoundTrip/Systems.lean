import EquationTutor.Proofs.Canonical.Systems
import EquationTutor.Proofs.RoundTrip.Relations
import EquationTutor.Step.Linear

namespace EquationTutor

open PolynomialText Reading Pattern

namespace PolynomialText

def Ratio.ofUnsigned (n : Unsigned) : Ratio :=
  .ofNumeral n.chars n.numeral_chars

namespace Term

/-- What is written before the variable of a term. -/
def written (t : Term) : Coefficient :=
  ⟨t.sign, t.factor.map Ratio.ofUnsigned⟩

theorem tokens_written (t : Term) : t.written.tokens = t.lead := by
  rw [Coefficient.tokens, Coefficient.mark, Coefficient.body, written, lead]
  cases t.factor <;> simp [Ratio.chars, Ratio.ofUnsigned, Ratio.ofNumeral]

theorem parseCoefficient_written {α : Type} [Scalar α] (t : Term) :
    parseCoefficient t.written.text = (t.coefficient : α) := by
  have hflatten : t.lead.flatten = t.mark ++ ([] ++ t.digits) := by
    rw [lead, mark, digits]
    cases t.sign <;> cases t.factor <;> simp
  rw [Coefficient.text, tokens_written, hflatten]
  exact parseCoefficient_of_spaces t (by simp)

end Term

/-- An equation in two unknowns: the terms of `x` and of `y` on the left, of which only what
stands before the variable counts, and the number on the right. -/
structure PairEquation where
  x : Term
  y : Term
  number : Term
  isSome_sign : y.sign.isSome = true
  isSome_factor : number.factor.isSome = true

namespace PairEquation

def tokens (e : PairEquation) : List (List Char) :=
  e.x.lead ++ ['x'] :: (e.y.lead ++ ['y'] :: ['='] :: e.number.lead)

/-- The equation as it is printed. -/
def ofInts (a b c : Int) : PairEquation where
  x := .ofInt true a .linear
  y := .ofInt false b .linear
  number := .ofInt true c .constant
  isSome_sign := Term.isSome_sign_ofInt b .linear
  isSome_factor := Term.isSome_factor_ofInt true c

/-- The equation in standard form. -/
def written (e : PairEquation) : EquationInTwo where
  x := e.x.written
  y := e.y.written
  number := e.number.written
  isSome_sign_y := e.isSome_sign
  isSome_size_number := by simpa [Term.written] using e.isSome_factor

theorem tokens_written (e : PairEquation) : e.written.tokens = e.tokens := by
  simp [EquationInTwo.tokens, EquationInTwo.yTokens, EquationInTwo.numberTokens, written,
    Term.tokens_written, tokens]

end PairEquation

theorem parseProblem_system {α : Type} [Scalar α] {e₁ e₂ : PairEquation} {text : String}
    (h : Spaced Text.isBlank (e₁.tokens ++ [','] :: e₂.tokens) (typed text)) :
    ∃ problem : Problem α, parseProblem ⟨some text, none, none, none, none⟩ = .ok problem ∧
      problem.kind = .linearSystem ∧ problem.parameters =
        systemRecord e₁.x.coefficient e₁.y.coefficient e₁.number.coefficient e₂.x.coefficient
          e₂.y.coefficient e₂.number.coefficient := by
  have hcomma : ',' ∈ separators := List.mem_cons_self
  rw [← e₁.tokens_written, ← e₂.tokens_written] at h
  have htokens : Tokens (e₁.written.tokens ++ [','] :: e₂.written.tokens) := tokens_system hcomma
  have hat := spelled_normalize_of_spaced (fun t ht => ⟨(htokens t ht).1, fun c hc =>
    ⟨(htokens t ht).2 c hc, by
      rintro rfl
      exact star_notMem_system hcomma (List.mem_flatten.mpr ⟨t, ht, hc⟩)⟩⟩) h
  have hparse := parseProblem_of_at (α := α) hcomma hat none
  simpa only [PairEquation.written, Term.parseCoefficient_written] using hparse

section Printed

variable {x y z : Float} {a b c : Int}

theorem spaced_equationInTwo (hx : Double.IsInteger x a) (hy : Double.IsInteger y b)
    (hz : Double.IsInteger z c) (ha : a ≠ 0) (hb : b ≠ 0) :
    Spaced Text.isBlank (PairEquation.ofInts a b c).tokens (typed (Step.equationInTwo x y z)) := by
  have hzero : Scalar.isZero y = false := Bool.eq_false_iff.mpr (mt hy.isZero_iff.mp hb)
  have hmonomial : "y".isEmpty = true ↔ Power.linear = .constant := by decide
  have hvariable : typed "y" = ['y'] := by decide
  obtain ⟨cs, hcs, hlead⟩ := exists_typed_term hy hb false hmonomial
  have hlater : Spaced Text.isBlank ((Term.ofInt false b .linear).lead ++ [['y']])
      (typedLater [(y, "y")]) := by
    rw [typedLater, List.filter_cons_of_pos (by simp [hzero])]
    simpa [hcs, hvariable] using hlead.append (spelled_flatten [['y']]).spaced
  have hsum := spaced_shownTerms hx hlater .linear ha
  have hequal : Spaced Text.isBlank [['=']] (typed " = ") :=
    ⟨[' '], ['=', ' '], by decide, List.all_iff_forall_prop.mp (by decide), [' '], [], rfl,
      List.all_iff_forall_prop.mp (by decide), rfl⟩
  have htext : typed (Step.equationInTwo x y z) =
      typed (shownTerms [(x, "x"), (y, "y")]) ++ typed " = " ++ typed (shown z) := by
    rw [← typed_append, ← typed_append]
    rfl
  have hnumber := spaced_shown hz
  rw [htext]
  simpa [PairEquation.tokens, PairEquation.ofInts, Term.tokens, constantSide, Side.tokens,
    Side.terms, Power.tokens, Power.monomial] using (hsum.append hequal).append hnumber

end Printed

end PolynomialText

end EquationTutor
