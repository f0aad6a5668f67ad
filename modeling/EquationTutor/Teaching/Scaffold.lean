import EquationTutor.Problem.Kind
import EquationTutor.Step.Basic
import EquationTutor.Text.Lowercase

namespace EquationTutor.Teaching

def moveQuestions : Move → List String
  | .identifyCoefficients =>
    ["Is every term on one side with 0 on the other?",
     "Which number multiplies x², which multiplies x, and which stands alone?"]
  | .calculateDiscriminant =>
    ["What are b² and 4ac for this equation?",
     "Is the result positive, zero or negative, and what does that predict?"]
  | .takeLogarithm | .takeNaturalLogarithm =>
    ["Is the exponential term alone on one side?",
     "Which logarithm makes the next step simplest?"]
  | .divideCoefficient => ["Is the number you divide by positive or negative?"]
  | .findVertex | .findTimeOfMax =>
    ["What are -b and 2a here?", "Does the parabola open up or down?"]
  | .interpretTimes => ["Which times happen before the launch?"]
  | .testEachInterval => ["Which point inside each interval is easiest to test?"]
  | _ => []

def guidingQuestions (s : Step) : List String :=
  ((Move.ofTitle? s.name).map moveQuestions).getD [] ++
    [s!"What is the goal of '{s.name}'?"] ++
    (if s.isFinal then ["How can you check this answer?"] else [])

/-- The parts of a step in the order in which they are done. -/
def subSteps (s : Step) : List String :=
  (s.before.map fun text => s!"Start from {text}").toList ++
    (s.formula.map fun text => s!"Recall {text}").toList ++
    (s.operation.map fun text => s!"Apply {text} to both sides").toList ++
    [match s.result with
    | some text => s!"Simplify to {text}"
    | none => s.description]

/-- Hints, each of which gives away more than the one before. -/
structure HintLadder where
  level1 : String
  level2 : String
  level3 : String
  level4 : String

def hintLadder (s : Step) : HintLadder :=
  { level1 := s!"Think about the purpose: {Text.lowercase s.description}."
    level2 :=
      match s.rule, s.formula with
      | some rule, _ => rule
      | none, some formula => s!"Use {formula}"
      | none, none => "Keep both sides balanced."
    level3 :=
      match s.operation with
      | some operation => s!"Apply {operation}"
      | none => s.reasoning
    level4 :=
      match s.result with
      | some text => s!"The result is {text}"
      | none => s.description }

def practiceVariation : Family → String
  | .quadratic => "Try the same step on x² - 7x + 12 = 0."
  | .exponential => "Try the same step on 3^x = 81."
  | .finance => "Repeat with $500 at 4% for 5 years."
  | .linear => "Try the same step on 3x - 4 = 11."

structure Scaffolding where
  guidingQuestions : List String
  subSteps : List String
  hintLadder : HintLadder
  practiceVariation : String

def scaffolding (s : Step) (family : Family) : Scaffolding :=
  ⟨guidingQuestions s, subSteps s, hintLadder s, practiceVariation family⟩

def alternatives : Kind → List String
  | .standardQuadratic | .quadraticFormula =>
    ["Factoring", "Completing the square", "Graphing"]
  | .factoringQuadratic => ["Quadratic formula", "Completing the square"]
  | .completingSquare => ["Quadratic formula", "Factoring"]
  | .quadraticInequality => ["Sign chart", "Graph the parabola"]
  | .projectileMotion => ["Complete the square on h(t)", "Graph the height function"]
  | .quadraticOptimization => ["Complete the square", "Average the x-intercepts"]
  | .exponentialInequality => ["Rewrite both sides with a common base", "Graph both sides"]
  | .exponentialQuadratic => ["Factor the quadratic in u"]
  | .simpleExponential | .naturalExponential =>
    ["Rewrite both sides with a common base", "Use a different logarithm base"]
  | .logarithmicEquation => ["Use the change of base formula"]
  | .compoundInterest | .exponentialGrowth | .exponentialDecay | .halfLife =>
    ["Build a table of values period by period", "Estimate from a graph"]
  | .simpleLinear | .linearInequality => ["Graph both sides and find where they meet"]
  | .linearSystem => ["Substitution", "Elimination", "Graphing"]

structure Metacognition where
  thinkingProcess : String
  decisionPoints : List String
  alternatives : List String

def metacognition (s : Step) (kind : Kind) : Metacognition :=
  { thinkingProcess :=
      s!"I am solving a {Text.lowercase kind.displayName} problem. " ++
        s!"Right now I need to {Text.lowercase s.description}."
    decisionPoints :=
      s!"Why is '{s.name}' the right move now?" ::
        if s.rule.isSome then ["Which rule justifies this transformation?"] else []
    alternatives := alternatives kind }

end EquationTutor.Teaching
