import EquationTutor.Teaching.Bridge
import EquationTutor.Teaching.Mistake
import EquationTutor.Teaching.Phrase
import EquationTutor.Teaching.Scaffold
import EquationTutor.Teaching.Vocabulary

namespace EquationTutor.Teaching

/-- What a learner should know before a move, and the words it uses. -/
def background : Move → List String × List String
  | .identifyCoefficients =>
    (["Standard form ax² + bx + c = 0"],
     ["coefficient", "constant term"])
  | .calculateDiscriminant =>
    (["Order of operations", "Squaring negative numbers"],
     ["discriminant"])
  | .applyQuadraticFormula => (["Square roots", "Fractions"], ["quadratic formula"])
  | .simplifySquareRoot => (["Perfect squares"], ["radical"])
  | .identifyComplexSolutions =>
    (["The imaginary unit i = √-1"],
     ["complex number", "conjugates"])
  | .factorOutCommon => (["Greatest common divisor"], ["common factor"])
  | .findFactorPair => (["Multiplication facts", "Integer sums"], ["factor pair"])
  | .zeroProduct => (["Factored form"], ["zero product property"])
  | .completeSquare => (["Expanding (x + h)²"], ["perfect square"])
  | .takeSquareRoot => (["Square roots of both signs"], ["principal root"])
  | .identifyTestIntervals => (["The number line"], ["critical points", "interval notation"])
  | .writeHeightFunction =>
    (["Function notation", "Acceleration due to gravity"],
     ["initial velocity", "initial height"])
  | .findTimeOfMax => (["Vertex of a parabola"], ["axis of symmetry"])
  | .findVertex => (["Evaluating functions"], ["vertex", "axis of symmetry"])
  | .writeVertexForm => (["Expanding (x - h)²"], ["vertex form"])
  | .describeGraph => (["Graph of y = x²"], ["stretch", "reflection", "shift"])
  | .stateRange => (["Interval notation"], ["range"])
  | .testEachInterval => (["Evaluating polynomials"], ["test point"])
  | .takeLogarithm => (["Exponent rules"], ["logarithm"])
  | .takeNaturalLogarithm => (["The number e"], ["natural logarithm"])
  | .applyLogPowerRule => (["Logarithm properties"], ["power rule"])
  | .identifyBaseType =>
    (["Increasing and decreasing functions"],
     ["growth base", "decay base"])
  | .makeSubstitution => (["Quadratic equations"], ["substitution"])
  | .convertToExponential => (["Definition of the logarithm"], ["exponential form"])
  | .chooseFormula => (["Percentages as decimals"], ["principal", "rate", "compounding"])
  | .computeDecayConstant => (["Natural logarithm"], ["half-life", "decay constant"])
  | .divideCoefficient => (["Inverse operations"], ["coefficient"])
  | .computeDeterminant => (["2×2 arrays of numbers"], ["determinant"])
  | .applyCramer => (["Determinants"], ["Cramer's rule"])
  | _ => ([], [])

structure AdaptiveExplanation where
  level : Level
  description : String
  reasoning : String

structure LearningSupport where
  prerequisites : List String
  vocabulary : List String
  previousLink : Option String

structure Enhancement where
  explanations : Explanations
  adaptive : AdaptiveExplanation
  highlightedConcept : Option String
  learningSupport : LearningSupport
  errorPrevention : Option ErrorPrevention
  validation : Option Validation
  scaffolding : Option Scaffolding
  metacognition : Option Metacognition

inductive Entry where
  | step (base : Step) (enhancement : Option Enhancement)
  | bridge (b : Bridge)

structure Options where
  /-- Whether transitions stand between the steps. -/
  connections : Bool
  errorPrevention : Bool
  deriving DecidableEq

def given {β : Type} (condition : Bool) (value : β) : Option β :=
  if condition then some value else none

def learningSupport (prev : Option Step) (s : Step) : LearningSupport :=
  let (prerequisites, vocabulary) :=
    ((Move.ofTitle? s.name).map background).getD ([], [])
  { prerequisites := prerequisites
    vocabulary := vocabulary
    previousLink := prev.map fun p => s!"Builds on step {p.number}: {p.name}" }

def Explanations.rephrase (level : Level) (e : Explanations) : Explanations :=
  ⟨Teaching.rephrase level e.conceptual, Teaching.rephrase level e.procedural,
    Teaching.rephrase level e.visual, Teaching.rephrase level e.algebraic⟩

def enhancement (kind : Kind) (level : Level) (options : Options) (prev : Option Step)
    (s : Step) : Enhancement :=
  let texts := (explanations s kind.family).rephrase level
  let scaffolded : Bool := level = .scaffolded
  { explanations := texts
    adaptive := ⟨level, rephrase level s.description, rephrase level s.reasoning⟩
    highlightedConcept := given level.highlights texts.conceptual
    learningSupport := learningSupport prev s
    errorPrevention := given options.errorPrevention (errorPrevention kind s)
    validation := given options.errorPrevention (validation s)
    scaffolding := given scaffolded (scaffolding s kind.family)
    metacognition := given scaffolded (metacognition s kind) }

/-- The entries of the steps after `prev`, of `total` steps in all. -/
def enhanceAfter (kind : Kind) (level : Level) (options : Options) (total : Nat)
    (prev : Option Step) : List Step → List Entry
  | [] => []
  | s :: rest =>
    let bridges :=
      match prev with
      | some p => if options.connections then [.bridge (bridge p s total kind.family)] else []
      | none => []
    bridges ++ .step s (some (enhancement kind level options prev s)) ::
      enhanceAfter kind level options total (some s) rest

def enhance (kind : Kind) (level : Level) (options : Options) (steps : List Step) : List Entry :=
  if level = .basic then steps.map fun s => .step s none
  else enhanceAfter kind level options steps.length none steps

end EquationTutor.Teaching
