import EquationTutor.Problem.Kind
import EquationTutor.Step.Basic

namespace EquationTutor.Teaching

/-- Why a move comes next, and what it is good for. -/
def purpose? : Move → Option (String × String)
  | .identifyCoefficients =>
    some ("Every solution method works from the coefficients",
      "The numbers we need are in plain view")
  | .calculateDiscriminant =>
    some ("The discriminant tells us what kind of solutions to expect",
      "We know in advance how many answers to look for")
  | .applyQuadraticFormula =>
    some ("The formula solves any quadratic once the discriminant is known",
      "The answer reduces to arithmetic")
  | .simplifySquareRoot =>
    some ("A simplified root makes the two branches easy to compute",
      "Less chance of arithmetic slips")
  | .findFactorPair =>
    some ("Factoring needs two numbers matching the product and the sum",
      "A factored form exposes the roots directly")
  | .zeroProduct =>
    some ("A product of factors is zero only when a factor is zero",
      "One hard equation becomes two easy ones")
  | .completeSquare =>
    some ("A perfect square can be undone with a single square root",
      "The equation takes vertex form")
  | .takeSquareRoot =>
    some ("The squared binomial stands alone",
      "The unknown is one step away")
  | .testEachInterval =>
    some ("The sign is constant between critical points",
      "A single test value settles each interval")
  | .findTimeOfMax =>
    some ("The peak of the flight is the vertex of the height function",
      "We learn when the object stops rising")
  | .setTargetHeight =>
    some ("The question asks when a particular height is reached",
      "The height function becomes a quadratic equation")
  | .interpretTimes =>
    some ("The equation knows nothing about the launch moment",
      "Only physically meaningful times remain")
  | .findVertex =>
    some ("The extreme value of a quadratic always occurs at its vertex",
      "The optimum is located exactly")
  | .writeVertexForm =>
    some ("The vertex gives the shifts of y = x²",
      "The whole graph can be read from one expression")
  | .determineExtremum =>
    some ("The direction of opening decides what the vertex value means",
      "The question is answered with a maximum or a minimum")
  | .takeLogarithm =>
    some ("The unknown is stuck in an exponent",
      "Logarithms bring it down to ordinary algebra")
  | .takeNaturalLogarithm =>
    some ("The natural logarithm undoes base e",
      "The exponent appears directly")
  | .makeSubstitution =>
    some ("The powers form a hidden quadratic",
      "Known quadratic techniques apply")
  | .rejectInvalid =>
    some ("An exponential can never be zero or negative",
      "Only meaningful candidates remain")
  | .backSubstitute =>
    some ("The values found are for u, not x",
      "We return to the original unknown")
  | .chooseFormula =>
    some ("The situation matches a standard growth model",
      "The problem becomes substitution")
  | .substituteValues =>
    some ("The formula is general; our problem is specific",
      "Only one unknown remains")
  | .divideCoefficient =>
    some ("x is still multiplied by a coefficient",
      "x ends up alone")
  | .computeDeterminant =>
    some ("The determinant decides whether a unique solution exists",
      "We know which case we are in")
  | _ => none

structure Bridge where
  title : String
  currentState : String
  nextGoal : String
  why : String
  benefit : String
  progression : String
  strategy : String

def strategy : Family → String
  | .quadratic => "Reduce the quadratic to simpler equations whose solutions can be read off"
  | .exponential => "Isolate the exponential, then use logarithms to reach the exponent"
  | .finance => "Match the situation to a model, substitute and solve for the unknown"
  | .linear => "Undo each operation on the unknown in reverse order"

/-- The transition from one step to the next, of `total` steps in all. -/
def bridge (prev next : Step) (total : Nat) (family : Family) : Bridge :=
  let (why, benefit) :=
    ((Move.ofTitle? next.name).bind purpose?).getD
      (s!"The result of '{prev.name}' sets up '{next.name}'",
        "Each step brings the problem closer to the answer")
  { title := s!"From {prev.name} to {next.name}"
    currentState :=
      match prev.result with
      | some text => s!"After '{prev.name}' we have {text}"
      | none => s!"We have completed '{prev.name}'"
    nextGoal := next.description
    why := why
    benefit := benefit
    progression := s!"Step {prev.number} of {total} done"
    strategy := strategy family }

end EquationTutor.Teaching
