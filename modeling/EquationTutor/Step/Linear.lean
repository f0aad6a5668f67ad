import EquationTutor.Step.Quadratic

namespace EquationTutor.Step

open Scalar

variable {α : Type} [Scalar α]

def linearRelation (m b : α) (r : Relation) (c : α) : String :=
  let left := shownLinear m b "x"
  s!"{left} {r.symbol} {shown c}"

/-- The division by `m`, with a rule when it turns the relation round. -/
def divideStep (m b c : α) (r isolated : Relation) (current : String) : Step :=
  let step :=
    of .divideCoefficient s!"Divide both sides by {shown m}"
      |>.transform current s!"x {isolated.symbol} {shown ((c - b) / m)}"
      |>.withOperation s!"÷ {shownFactor m}"
  if r = isolated then step
  else
    step
      |>.withRule "Multiplying or dividing by a negative number reverses the inequality"
      |>.withReasoning s!"{shown m} is negative, so {r.symbol} becomes {isolated.symbol}"

/-- Takes the constant to the right, and then divides by `m`. -/
def isolateSteps (m b c : α) (r isolated : Relation) : List Step :=
  let start := linearRelation m b r c
  let moved := linearRelation m 0 r (c - b)
  if isZero b then [divideStep m b c r isolated start]
  else
    [of .subtractConstant s!"Subtract {shownFactor b} from both sides"
      |>.transform start moved
      |>.withOperation s!"- {shownFactor b}",
     divideStep m b c r isolated moved]

def replaceLastResult (text : String) : List Step → List Step
  | [] => []
  | [s] => [{ s with after := some text }]
  | s :: ss => s :: replaceLastResult text ss

/-- The step for an equation in which the unknown cancels. -/
def classifyEquationStep (d : LinearDetail α) (s : Solution α) (given : String) : Step :=
  let verdict := match s.set with
    | .allReals => "always true"
    | _ => "never true"
  of .classifyEquation "The variable cancels, leaving a statement about numbers"
    |>.transform given s.label
    |>.withReasoning s!"{shown d.b} = {shown d.c} is {verdict}"

def ofLinear (d : LinearDetail α) (s : Solution α) : List Step :=
  let given := linearRelation d.m d.b .eq d.c
  (of .givenEquation "Start with the linear equation"
    |>.withExpression given
    |>.withReasoning "Undo each operation on x in reverse order") ::
  if isZero d.m then [classifyEquationStep d s given]
  else replaceLastResult (solutionsText s.set.realValues) (isolateSteps d.m d.b d.c .eq .eq)

def ofLinearInequality (d : LinearInequalityDetail α) (label : String) : List Step :=
  let given := linearRelation d.m d.b d.relation d.c
  [of .givenInequality "Start with the linear inequality"
    |>.withExpression given
    |>.withReasoning "Isolate x as in an equation, watching the direction of the sign"] ++
  (if d.boundary.isNone then
    [of .classifyEquation "The variable cancels, leaving a comparison of numbers"
      |>.transform given s!"{shown d.b} {d.relation.symbol} {shown d.c}"]
  else isolateSteps d.m d.b d.c d.relation d.isolatedRelation) ++
  [of .writeSolution "Write the solution in interval notation"
    |>.withExpression label]

def equationInTwo (a b c : α) : String :=
  let sum := shownTerms [(a, "x"), (b, "y")]
  s!"{sum} = {shown c}"

/-- The step that uses the replaced determinants, given as `minors`. -/
def cramerStep (set : SolutionSet α) (minors : String) : Step :=
  match set with
  | .point x y =>
    of .applyCramer "Divide each replaced determinant by D"
      |>.withFormula "x = Dx / D, y = Dy / D"
      |>.transform minors s!"x = {shown x}, y = {shown y}"
  | _ =>
    of .classifySystem "D = 0, so the lines are parallel or identical"
      |>.withExpression minors
      |>.withReasoning
        (match set with
        | .infinite => "Both replaced determinants vanish: the equations describe the same line"
        | _ => "A replaced determinant is nonzero: the lines are parallel and never meet")

def ofSystem (d : SystemDetail α) (s : Solution α) : List Step :=
  let first := equationInTwo d.a1 d.b1 d.c1
  let second := equationInTwo d.a2 d.b2 d.c2
  let determinant :=
    s!"D = {shownFactor d.a1}·{shownFactor d.b2} - {shownFactor d.a2}·{shownFactor d.b1}" ++
      s!" = {shown d.determinant}"
  [of .givenSystem "Start with the system of two linear equations"
    |>.withExpression s!"{first}, {second}",
   of .computeDeterminant "Compute the coefficient determinant"
    |>.withFormula "D = a₁b₂ - a₂b₁"
    |>.transform "D = a₁b₂ - a₂b₁" determinant
    |>.withReasoning "A nonzero determinant means the lines cross at exactly one point",
   cramerStep s.set s!"Dx = {shown d.detX}, Dy = {shown d.detY}",
   of .writeSolution "State the solution of the system"
    |>.withExpression
      (match s.set with
      | .point x y => s!"(x, y) = ({shown x}, {shown y})"
      | _ => s.label)]

end EquationTutor.Step
