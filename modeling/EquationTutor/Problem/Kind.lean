import EquationTutor.Text.Blank

namespace EquationTutor

inductive Family where
  | quadratic
  | exponential
  | finance
  | linear
  deriving DecidableEq

inductive Kind where
  | exponentialInequality
  | exponentialQuadratic
  | quadraticInequality
  | projectileMotion
  | quadraticOptimization
  | factoringQuadratic
  | completingSquare
  | quadraticFormula
  | standardQuadratic
  | naturalExponential
  | simpleExponential
  | compoundInterest
  | halfLife
  | exponentialGrowth
  | exponentialDecay
  | logarithmicEquation
  | linearInequality
  | linearSystem
  | simpleLinear
  deriving DecidableEq

namespace Kind

/-- Every kind in the order in which texts are tried: a kind stands before any
more general one that would also take its texts. -/
def all : List Kind :=
  [exponentialInequality, exponentialQuadratic, quadraticInequality, projectileMotion,
   quadraticOptimization, factoringQuadratic, completingSquare, quadraticFormula,
   standardQuadratic, naturalExponential, simpleExponential, compoundInterest, halfLife,
   exponentialGrowth, exponentialDecay, logarithmicEquation, linearInequality, linearSystem,
   simpleLinear]

def name : Kind → String
  | exponentialInequality => "exponential_inequality"
  | exponentialQuadratic => "exponential_quadratic"
  | quadraticInequality => "quadratic_inequality"
  | projectileMotion => "projectile_motion"
  | quadraticOptimization => "quadratic_optimization"
  | factoringQuadratic => "factoring_quadratic"
  | completingSquare => "completing_square"
  | quadraticFormula => "quadratic_formula"
  | standardQuadratic => "standard_quadratic"
  | naturalExponential => "natural_exponential"
  | simpleExponential => "simple_exponential"
  | compoundInterest => "compound_interest"
  | halfLife => "half_life"
  | exponentialGrowth => "exponential_growth"
  | exponentialDecay => "exponential_decay"
  | logarithmicEquation => "logarithmic_equation"
  | linearInequality => "linear_inequality"
  | linearSystem => "linear_system"
  | simpleLinear => "simple_linear"

def ofName? (s : String) : Option Kind :=
  all.find? fun k => k.name = s

def ofText? (s : String) : Option Kind :=
  ofName? (Text.trim s)

def displayName : Kind → String
  | exponentialInequality => "Exponential Inequality"
  | exponentialQuadratic => "Exponential Equation in Quadratic Form"
  | quadraticInequality => "Quadratic Inequality"
  | projectileMotion => "Projectile Motion"
  | quadraticOptimization => "Quadratic Optimization and Vertex Analysis"
  | factoringQuadratic => "Quadratic by Factoring"
  | completingSquare => "Completing the Square"
  | quadraticFormula => "Quadratic Formula"
  | standardQuadratic => "Standard Quadratic Equation"
  | naturalExponential => "Natural Exponential Equation"
  | simpleExponential => "Simple Exponential Equation"
  | compoundInterest => "Compound Interest"
  | exponentialGrowth => "Exponential Growth"
  | exponentialDecay => "Exponential Decay"
  | halfLife => "Half-Life and Doubling Time"
  | logarithmicEquation => "Logarithmic Equation"
  | linearInequality => "Linear Inequality"
  | linearSystem => "System of Two Linear Equations"
  | simpleLinear => "Linear Equation"

def family : Kind → Family
  | quadraticInequality | projectileMotion | quadraticOptimization | factoringQuadratic
  | completingSquare | quadraticFormula | standardQuadratic => .quadratic
  | exponentialInequality | exponentialQuadratic | naturalExponential | simpleExponential
  | logarithmicEquation => .exponential
  | compoundInterest | exponentialGrowth | exponentialDecay | halfLife => .finance
  | linearInequality | linearSystem | simpleLinear => .linear

def isInequality : Kind → Bool
  | exponentialInequality | quadraticInequality | linearInequality => true
  | _ => false

/-- The kinds with their names, one a line, the names padded to one width. -/
def table (kinds : List Kind) : String :=
  let width := (kinds.map fun k => k.name.length).foldl max 0
  let line (k : Kind) :=
    k.name ++ String.ofList (List.replicate (width - k.name.length) ' ') ++ "  " ++
      k.displayName ++ "\n"
  String.join (kinds.map line)

end Kind

end EquationTutor
