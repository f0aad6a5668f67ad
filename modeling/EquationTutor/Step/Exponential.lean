import EquationTutor.Step.Quadratic

namespace EquationTutor.Step

open Scalar

variable {α : Type} [Scalar α]

/-- A power, with parentheses around an exponent other than `x`. -/
def powerText (base exponent : String) : String :=
  if exponent = "x" then s!"{base}^x" else s!"{base}^({exponent})"

/-- `k · term` without a unit coefficient. -/
def scaledText (k : α) (term : String) : String :=
  if isZero (k - 1) then term
  else if isZero (k + 1) then s!"-{term}"
  else s!"{shown k}·{term}"

/-- A signed sum of coefficients times powers; a term without power is a
constant. -/
def powerSum (terms : List (α × String)) : String :=
  shownSum Prod.fst
    (fun t =>
      if t.2.isEmpty then shown (absValue t.1) else scaledText (absValue t.1) t.2)
    terms

def naturalSteps (d : ExponentialDetail α) (exponent isolated answer : String) : List Step :=
  let taken := s!"{exponent} = ln({shown d.isolated})"
  [of .takeNaturalLogarithm "Take the natural logarithm of both sides"
    |>.transform isolated taken
    |>.withRule "ln(e^u) = u",
   of .solveForX s!"Divide by {shown d.rate}"
    |>.transform taken answer
    |>.withOperation s!"x = ln({shown d.isolated}) / {shown d.rate}"]

def logarithmSteps (d : ExponentialDetail α) (base bare isolated answer : String) :
    List Step :=
  let logged := s!"ln({bare}) = ln({shown d.isolated})"
  let broughtDown := s!"x·ln({base}) = ln({shown d.isolated})"
  [of .takeLogarithm "Apply ln to both sides"
    |>.transform isolated logged
    |>.withReasoning "Equal positive numbers have equal logarithms",
   of .applyLogPowerRule "Move the exponent in front of the logarithm"
    |>.transform logged broughtDown
    |>.withRule "ln(aⁿ) = n·ln(a)",
   of .solveForX s!"Divide both sides by ln({base})"
    |>.transform broughtDown answer
    |>.withOperation s!"x = ln({shown d.isolated}) / ln({base})"]

def ofExponential (d : ExponentialDetail α) (set : SolutionSet α) : List Step :=
  let base := if d.natural then "e" else shown d.base
  let exponent := shownLinear d.rate 0 "x"
  let bare := powerText base exponent
  let left := scaledText d.coefficient bare
  let given := s!"{left} = {shown d.result}"
  let isolated := s!"{bare} = {shown d.isolated}"
  let answer := solutionsText set.realValues
  (of .givenEquation "Start with the exponential equation"
    |>.withExpression given
    |>.withReasoning "The unknown sits in the exponent, so logarithms will bring it down") ::
  ((if isZero (d.coefficient - 1) then []
    else
      [of .isolateExponential s!"Divide both sides by {shown d.coefficient}"
        |>.transform given isolated
        |>.withOperation s!"÷ {shown d.coefficient}"]) ++
  if d.natural then naturalSteps d exponent isolated answer
  else logarithmSteps d base bare isolated answer)

def baseTypeStep (d : ExponentialInequalityDetail α) (base : String) : Step :=
  of .identifyBaseType
      (match d.behavior with
      | .growth => "The base is greater than 1, so the exponential is increasing"
      | .decay => "The base is between 0 and 1, so the exponential is decreasing")
    |>.withExpression s!"ln({base}) = {shown d.lnBase}"
    |>.withReasoning
      (if d.reversed then "Dividing by the negative number ln(base) will reverse the inequality"
      else "Dividing by the positive number ln(base) keeps the inequality direction")

def criticalSteps (d : ExponentialInequalityDetail α) (critical : α)
    (base bare sign bound isolated label : String) : List Step :=
  let logged := s!"ln({bare}) {sign} ln({bound})"
  let broughtDown := s!"x·ln({base}) {sign} ln({bound})"
  [of .takeLogarithm "Apply ln to both sides"
    |>.transform isolated logged
    |>.withReasoning "ln is increasing, so it preserves the inequality",
   of .applyPowerRule "Bring the exponent down"
    |>.transform logged broughtDown
    |>.withRule "ln(aⁿ) = n·ln(a)",
   of .solveForX s!"Divide both sides by ln({base}) = {shown d.lnBase}"
    |>.transform broughtDown s!"x {d.isolatedRelation.symbol} {shown critical}"
    |>.withReasoning
      (if d.reversed then "ln(base) is negative, so the inequality sign reverses"
      else "ln(base) is positive, so the inequality sign stays")
    |>.withHint s!"Solution set: {label}"]

def ofExponentialInequality (d : ExponentialInequalityDetail α) (label : String) : List Step :=
  let base := shown d.base
  let bare := powerText base "x"
  let left := scaledText d.coefficient bare
  let given := s!"{left} {d.relation.symbol} {shown d.bound}"
  let negative : Bool := d.coefficient < 0
  let sign := (if negative then d.relation.flip else d.relation).symbol
  let bound := shown (d.bound / d.coefficient)
  let isolated := s!"{bare} {sign} {bound}"
  [of .givenInequality "Start with the exponential inequality"
    |>.withExpression given,
   baseTypeStep d base] ++
  (if isZero (d.coefficient - 1) then []
    else
      [of .isolateExponential s!"Divide both sides by {shown d.coefficient}"
        |>.transform given isolated
        |>.withReasoning
          (if negative then "Dividing by a negative coefficient flips the inequality"
          else "Dividing by a positive coefficient keeps the inequality")]) ++
  match d.criticalValue with
  | some critical => criticalSteps d critical base bare sign bound isolated label
  | none =>
    [of .compareWithRange "An exponential is always positive"
      |>.transform isolated label
      |>.withReasoning s!"{bare} > 0 for every x, and {bound} is not positive"]

def uText (us : List α) : String :=
  shownEach "u = " " or " us

def backSubstitutionSteps (base u : String) (kept : List α) (set : SolutionSet α) : List Step :=
  let back := shownEach s!"{u} = " " or " kept
  [of .backSubstitute s!"Replace u with {u}"
    |>.transform (uText kept) back,
   of .solveExponentialEquations "Solve each exponential equation with logarithms"
    |>.transform back (solutionsText set.realValues)
    |>.withFormula s!"x = ln(u) / ln({base})"]

def uRootSteps (d : ExponentialQuadraticDetail α) (base u : String) (set : SolutionSet α) :
    List Step :=
  let kept := d.uRoots.filter fun v => !d.rejected.contains v
  (if d.rejected.isEmpty then []
    else
      [of .rejectInvalid s!"{u} is always positive"
        |>.transform (uText d.uRoots)
          (if kept.isEmpty then "no valid solutions" else uText kept)
        |>.withReasoning ("Discard " ++ uText d.rejected)]) ++
  if kept.isEmpty then [] else backSubstitutionSteps base u kept set

def ofExponentialQuadratic (d : ExponentialQuadraticDetail α) (set : SolutionSet α) : List Step :=
  let base := shown d.base
  let u := powerText base "x"
  let square := powerText base "2x"
  let given := powerSum [(d.a, square), (d.b, u), (d.c, "")] ++ " = 0"
  let inU := shownQuadratic d.a d.b d.c "u" ++ " = 0"
  let noRoots := d.uRoots.isEmpty
  [of .givenEquation "Start with the equation of quadratic type"
    |>.withExpression given
    |>.withReasoning s!"{square} is the square of {u}",
   of .makeSubstitution s!"Let u = {u}"
    |>.transform given inU
    |>.withRule "b^(2x) = (b^x)²",
   of .solveQuadraticEquation "Solve the quadratic in u"
    |>.transform inU (if noRoots then "no real solutions" else uText d.uRoots)
    |>.withOperation s!"Δ = {shown d.discriminant}"] ++
  if noRoots then [] else uRootSteps d base u set

def ofLogarithmic (d : LogarithmicDetail α) (set : SolutionSet α) : List Step :=
  let base := if d.natural then "e" else shown d.base
  let given :=
    if d.natural then s!"ln(x) = {shown d.result}"
    else if isZero (d.base - 10) then s!"log(x) = {shown d.result}"
    else s!"log_{base}(x) = {shown d.result}"
  let exponential := s!"x = {base}^{shown d.result}"
  [of .givenEquation "Start with the logarithmic equation"
    |>.withExpression given
    |>.withReasoning "The argument of a logarithm must be positive",
   of .convertToExponential "Rewrite the logarithm as an exponent"
    |>.transform given exponential
    |>.withRule "log_b(x) = y ⇔ x = b^y",
   of .evaluate "Evaluate the power"
    |>.transform exponential (solutionsText set.realValues)]

end EquationTutor.Step
