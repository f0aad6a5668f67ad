import EquationTutor.Pattern.Search
import EquationTutor.Problem.Kind
import EquationTutor.Step.Basic
import EquationTutor.Text.Lowercase

namespace EquationTutor.Teaching

def quadraticEquations : List Kind :=
  [.standardQuadratic, .quadraticFormula, .factoringQuadratic, .completingSquare]

/-- Mistakes that are made in a move, with the kinds of problem where they
occur. -/
def mistakeCatalog : List (List Kind × Move × List String) :=
  [(quadraticEquations, .identifyCoefficients,
     ["Dropping the sign of a negative coefficient",
      "Forgetting that a missing term has coefficient 0",
      "Reading coefficients before moving every term to one side"]),
   (quadraticEquations, .calculateDiscriminant,
     ["Writing -b² instead of (-b)² when b is negative",
      "Forgetting the factor 4 in 4ac",
      "Subtracting 4ac with the wrong sign when a or c is negative"]),
   (quadraticEquations, .applyQuadraticFormula,
     ["Dividing only the square root by 2a instead of the whole numerator",
      "Using b instead of -b in the numerator"]),
   (quadraticEquations, .calculateSolutions,
     ["Computing only the + branch",
      "Arithmetic slips when combining -b with the root"]),
   ([.factoringQuadratic], .findFactorPair,
     ["Choosing a pair with the right product but the wrong sum",
      "Ignoring negative factor pairs"]),
   ([.factoringQuadratic], .zeroProduct,
     ["Taking the factor shift as the root without changing its sign"]),
   ([.completingSquare], .completeSquare,
     ["Adding (b/2)² to one side only",
      "Squaring b instead of b/2"]),
   ([.completingSquare], .takeSquareRoot,
     ["Forgetting the negative square root"]),
   ([.projectileMotion], .writeHeightFunction,
     ["Using the full acceleration 32 ft/s² (9.8 m/s²) instead of half of it",
      "Giving the initial velocity the wrong sign for a downward throw"]),
   ([.projectileMotion], .interpretTimes,
     ["Keeping a negative time from the quadratic formula"]),
   ([.quadraticOptimization], .findVertex,
     ["Forgetting the minus sign in h = -b / 2a",
      "Reporting h as the extreme value instead of f(h)"]),
   ([.quadraticOptimization], .determineExtremum,
     ["Calling the vertex a maximum when the parabola opens upward"]),
   ([.quadraticInequality], .solveRelatedEquation,
     ["Treating the roots as the final answer of the inequality"]),
   ([.quadraticInequality], .testEachInterval,
     ["Testing a critical point instead of a point inside the interval",
      "Including endpoints for a strict inequality"]),
   ([.exponentialInequality], .solveForX,
     ["Keeping the inequality direction when dividing by a negative logarithm"]),
   ([.exponentialInequality], .identifyBaseType,
     ["Assuming every exponential is increasing"]),
   ([.simpleExponential, .exponentialInequality], .applyLogPowerRule,
     ["Writing ln(b^x) as ln(b)^x"]),
   ([.simpleExponential, .naturalExponential], .isolateExponential,
     ["Taking logarithms before dividing by the coefficient",
      "Writing ln(k·b^x) as k·ln(b^x)"]),
   ([.exponentialQuadratic], .rejectInvalid,
     ["Keeping a negative u and taking its logarithm"]),
   ([.exponentialQuadratic], .makeSubstitution,
     ["Substituting u = b^(2x) instead of u = b^x"]),
   ([.compoundInterest, .exponentialGrowth, .exponentialDecay], .substituteValues,
     ["Entering the rate as a percentage instead of a decimal",
      "Mixing up the number of periods n with the time t"]),
   ([.compoundInterest], .chooseFormula,
     ["Using the continuous formula for periodic compounding"]),
   ([.linearInequality], .divideCoefficient,
     ["Forgetting to flip the inequality when dividing by a negative number"]),
   ([.simpleLinear, .linearInequality], .subtractConstant,
     ["Subtracting the constant from one side only"]),
   ([.linearSystem], .computeDeterminant,
     ["Multiplying along the wrong diagonal"])]

/-- The mistakes known for the step of a problem. -/
def commonMistakes (kind : Kind) (name : String) : List String :=
  match Move.ofTitle? name with
  | some m =>
    (mistakeCatalog.filter fun e => e.2.1 = m && e.1.contains kind).flatMap fun e => e.2.2
  | none => []

structure ErrorPrevention where
  commonMistakes : List String
  preventionTips : List String
  checkPoints : List String
  warnings : List String

/-- The questions that compare a step with the line before it. -/
def checkPoints (s : Step) : List String :=
  (s.result.map fun text => s!"Does '{text}' follow from the previous line?").toList ++
    (if s.before.isSome then ["Was the same operation applied to both sides?"] else [])

/-- Whether the rule of a step says that something reverses. -/
def reverses (s : Step) : Bool :=
  s.rule.any (Pattern.text "reverses").occursIn

def warnings (kind : Kind) (s : Step) : List String :=
  (if kind.isInequality && reverses s then
    ["The inequality sign changes direction in this step"] else []) ++
  (if s.name = Move.rejectInvalid.title || s.name = Move.compareWithRange.title then
    ["Exponential expressions are always positive"] else [])

def errorPrevention (kind : Kind) (s : Step) : ErrorPrevention :=
  let mistakes := commonMistakes kind s.name
  { commonMistakes := mistakes
    preventionTips := mistakes.map fun m => "Watch out: " ++ Text.lowercase m
    checkPoints := checkPoints s
    warnings := warnings kind s }

structure Validation where
  selfCheck : String
  expectedResult : String
  troubleshooting : List String

def validation (s : Step) : Validation :=
  { selfCheck :=
      if s.isFinal then "Substitute your answer into the original problem. Does it hold?"
      else s!"Can you explain why '{s.name}' is the right move here?"
    expectedResult := s.result.getD s.description
    troubleshooting :=
      "Redo the previous step and compare line by line" ::
        if s.formula.isSome then
          ["Check that every value went into the right place in the formula"]
        else [] }

end EquationTutor.Teaching
