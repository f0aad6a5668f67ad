import EquationTutor.Numeric.Shortest
import EquationTutor.Problem.Kind
import EquationTutor.Text.Printable

namespace EquationTutor

inductive Failure (α : Type) where
  | unrecognized (input : String)
  | leadingCoefficient (a : α)
  /-- The base is not positive, or it is 1. -/
  | invalidBase (base : α)
  | noSolution (reason : String)
  | unknownKind (name : String)
  | insufficientParameters (kind : Kind) (needed : String)
  /-- Steps were asked for before any problem was solved. -/
  | noActiveProblem

namespace Failure

/-- A stable name of the reason. -/
def code {α : Type} : Failure α → String
  | unrecognized _ => "E_UNRECOGNIZED"
  | leadingCoefficient _ => "E_LEADING_COEFFICIENT"
  | invalidBase _ => "E_INVALID_BASE"
  | noSolution _ => "E_NO_SOLUTION"
  | unknownKind _ => "E_NO_SOLVER"
  | insufficientParameters _ _ => "E_INSUFFICIENT_PARAMS"
  | noActiveProblem => "E_NO_ACTIVE_PROBLEM"

def message : Failure Float → String
  | unrecognized input => s!"unable to recognize problem type for input: {Text.quote input}"
  | leadingCoefficient a => s!"leading coefficient must be non-zero (got {Double.plain a})"
  | invalidBase base =>
    s!"invalid exponential base {Double.plain base}: must be positive and not equal to 1"
  | noSolution reason => s!"no solution: {reason}"
  | unknownKind name => s!"no solver available for problem type '{name}'"
  | insufficientParameters kind needed =>
    s!"insufficient parameters for {kind.name}: {needed}"
  | noActiveProblem => "no active problem: solve a problem before regenerating steps"

end Failure

end EquationTutor
