import EquationTutor.Solve.CompletingSquare
import EquationTutor.Text.Lowercase

namespace EquationTutor.Solve

open Scalar

variable {α : Type} [Scalar α]

/-- What the problem asks for, by the first letters of its goal. -/
def requestedExtremum (p : Params α) : Option Extremum :=
  match (p.text? "goal").map fun g => (Text.lowercaseAscii (Text.trim g)).toList with
  | some ('m' :: 'a' :: 'x' :: _) => some .maximum
  | some ('m' :: 'i' :: 'n' :: _) => some .minimum
  | _ => none

/-- The line that remarks a factor other than 1 of the vertical scale. -/
def scaleRemark (scale : α) : List String :=
  if isZero (scale - 1) then []
  else if 1 < scale then [s!"Vertical stretch by a factor of {shown scale}"]
  else if scale < 1 then [s!"Vertical compression by a factor of {shown scale}"]
  else []

/-- The line that remarks a shift, with the words for its two directions. -/
def shiftRemark (up down : String) (d : α) : List String :=
  let direction := if 0 < d then up else down
  if isZero d then [] else [s!"Shift {direction} by {shown (absValue d)}"]

/-- The steps from `y = x²` to `y = a(x - h)² + k`. -/
def transformations (a h k : α) : List String :=
  scaleRemark (absValue a) ++ (if a < 0 then ["Reflection across the x-axis"] else []) ++
    shiftRemark "right" "left" h ++ shiftRemark "up" "down" k

/-- What to note when the extremum that is asked for does not exist. -/
def extremumNotes (opens : String) (extremum : Extremum) (requested : Option Extremum) :
    List String :=
  match requested with
  | some goal =>
    if goal = extremum then []
    else
      [s!"A parabola opening {opens} has no {goal.label}; its vertex is the {extremum.label}"]
  | none => []

def solveVertex (p : Params α) : Except (Failure α) (Solution α) := do
  let (a, b, c) ← quadraticCoefficients p .quadraticOptimization
  let (delta, roots) ← quadraticRoots a b c
  let quadratic := quadraticDetail a b c delta roots.nature
  let h := quadratic.vertex.x
  let k := quadratic.vertex.y
  let up : Bool := 0 < a
  let extremum : Extremum := if up then .minimum else .maximum
  let range : Interval α :=
    if up then ⟨.closedAt k, .posInfinity⟩ else ⟨.negInfinity, .closedAt k⟩
  let requested := requestedExtremum p
  let notes := extremumNotes (if up then "upward" else "downward") extremum requested
  return { Solution.plain .quadraticOptimization s!"{extremum.title} at x = {shown h}"
      (.quantity s!"{extremum.label} value" k)
      (.vertexAnalysis
        { quadratic := quadratic
          vertexForm := vertexForm a (-h) k
          extremum := extremum
          requested := requested
          range := range
          xIntercepts := roots.real
          transformations := transformations a h k }) with
    notes := notes }

end EquationTutor.Solve
