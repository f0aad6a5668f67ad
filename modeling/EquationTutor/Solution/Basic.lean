import EquationTutor.Problem.Kind
import EquationTutor.Relation
import EquationTutor.SolutionSet

namespace EquationTutor

structure Point (α : Type) where
  x : α
  y : α

inductive RootNature where
  | twoReal
  | oneReal
  | complexPair
  deriving DecidableEq

def RootNature.label : RootNature → String
  | twoReal => "Two distinct real solutions"
  | oneReal => "One repeated real solution"
  | complexPair => "Two complex conjugate solutions"

structure QuadraticDetail (α : Type) where
  a : α
  b : α
  c : α
  discriminant : α
  nature : RootNature
  vertex : Point α
  axisOfSymmetry : α
  yIntercept : α
  sumOfRoots : α
  productOfRoots : α

/-- Feet or metres. -/
inductive UnitSystem where
  | imperial
  | metric
  deriving DecidableEq

namespace UnitSystem

def length : UnitSystem → String
  | imperial => "ft"
  | metric => "m"

/-- Half the acceleration due to gravity: the `g` of `h(t) = -gt² + v₀t + h₀`. -/
def gravity {α : Type} [Scalar α] : UnitSystem → α
  | imperial => 16
  | metric => 4.9

end UnitSystem

structure ProjectileDetail (α : Type) where
  units : UnitSystem
  gravity : α
  initialVelocity : α
  initialHeight : α
  targetHeight : Option α
  /-- Discriminant of `-gt² + v₀t + (h₀ - target) = 0`. -/
  targetDiscriminant : Option α
  /-- Times after launch at which the target height is reached. -/
  targetTimes : List α
  timeToMaxHeight : α
  maxHeight : α
  /-- The time after launch at which the height is 0 again. -/
  flightTime : Option α

inductive Extremum where
  | minimum
  | maximum
  deriving DecidableEq

namespace Extremum

def label : Extremum → String
  | minimum => "minimum"
  | maximum => "maximum"

def title : Extremum → String
  | minimum => "Minimum"
  | maximum => "Maximum"

end Extremum

structure VertexDetail (α : Type) where
  quadratic : QuadraticDetail α
  vertexForm : String
  /-- What the vertex is. -/
  extremum : Extremum
  /-- What the problem asks for, if it says so. -/
  requested : Option Extremum
  range : Interval α
  xIntercepts : List α
  /-- The way from `y = x²` to the graph. -/
  transformations : List String

structure FactoringDetail (α : Type) where
  /-- The leading coefficient when all coefficients are multiples of it. -/
  commonFactor : Option α
  /-- The `p` and `q` of `(x + p)(x + q)`. -/
  pair : Option (α × α)
  factoredForm : Option String
  quadratic : QuadraticDetail α

structure SquareDetail (α : Type) where
  a : α
  b : α
  c : α
  bOverA : α
  cOverA : α
  halfB : α
  halfBSquared : α
  /-- `(b/2a)² - c/a`, the right side of the completed square. -/
  remainder : α
  vertexForm : String
  vertex : Point α

/-- A sign test on one piece of the number line. -/
structure TestPoint (α : Type) where
  interval : Interval α
  point : α
  value : α
  satisfies : Bool

structure QuadraticInequalityDetail (α : Type) where
  a : α
  b : α
  c : α
  relation : Relation
  discriminant : α
  criticalPoints : List α
  tests : List (TestPoint α)

structure LinearInequalityDetail (α : Type) where
  m : α
  b : α
  c : α
  relation : Relation
  /-- The relation after the division by `m`. -/
  isolatedRelation : Relation
  boundary : Option α
  flipped : Bool

inductive Trend where
  | growth
  | decay
  deriving DecidableEq

def Trend.label : Trend → String
  | growth => "growth"
  | decay => "decay"

/-- 1 for growth and -1 for decay. -/
def Trend.sign {α : Type} [Scalar α] : Trend → α
  | growth => 1
  | decay => -1

structure ExponentialInequalityDetail (α : Type) where
  coefficient : α
  base : α
  bound : α
  relation : Relation
  isolatedRelation : Relation
  lnBase : α
  criticalValue : Option α
  behavior : Trend
  /-- Whether taking logarithms turned the relation round. -/
  reversed : Bool

structure ExponentialQuadraticDetail (α : Type) where
  a : α
  b : α
  c : α
  base : α
  discriminant : α
  /-- Real roots of the quadratic in `u = base^x`. -/
  uRoots : List α
  rejected : List α

structure ExponentialDetail (α : Type) where
  coefficient : α
  base : α
  /-- Coefficient of `x` in the exponent. -/
  rate : α
  result : α
  /-- `result / coefficient`. -/
  isolated : α
  /-- Whether the base is written `e`. -/
  natural : Bool

structure LogarithmicDetail (α : Type) where
  base : α
  result : α
  natural : Bool

inductive GrowthLaw (α : Type) where
  /-- Compounded a number of times in a unit of time. -/
  | periodic (periodsPerUnit : α)
  | continuous

inductive Quantity where
  | principal
  | finalAmount
  | rate
  | time
  deriving DecidableEq

namespace Quantity

def label : Quantity → String
  | principal => "initial amount"
  | finalAmount => "final amount"
  | rate => "rate"
  | time => "time"

def symbol : Quantity → String
  | principal => "P"
  | finalAmount => "A"
  | rate => "r"
  | time => "t"

end Quantity

structure GrowthDetail (α : Type) where
  law : GrowthLaw α
  trend : Trend
  principal : α
  finalAmount : α
  rate : α
  time : α
  solvedFor : Quantity
  /-- What the principal is multiplied by over the whole time. -/
  factor : α
  formula : String
  /-- Interest earned, for compound interest. -/
  interest : Option α
  /-- Doubling time of a growth, half-life of a decay. -/
  characteristicTime : Option α

def GrowthDetail.valueOf {α : Type} (d : GrowthDetail α) : Quantity → α
  | .principal => d.principal
  | .finalAmount => d.finalAmount
  | .rate => d.rate
  | .time => d.time

structure HalfLifeDetail (α : Type) where
  trend : Trend
  characteristicTime : α
  /-- `ln 2` over the characteristic time. -/
  k : α
  initial : Option α
  time : Option α
  amount : Option α

structure LinearDetail (α : Type) where
  m : α
  b : α
  c : α

structure SystemDetail (α : Type) where
  a1 : α
  b1 : α
  c1 : α
  a2 : α
  b2 : α
  c2 : α
  determinant : α
  detX : α
  detY : α

inductive Detail (α : Type) where
  | quadratic (d : QuadraticDetail α)
  | factoring (d : FactoringDetail α)
  | completingSquare (d : SquareDetail α)
  | quadraticInequality (d : QuadraticInequalityDetail α)
  | projectile (d : ProjectileDetail α)
  | vertexAnalysis (d : VertexDetail α)
  | linearInequality (d : LinearInequalityDetail α)
  | exponentialInequality (d : ExponentialInequalityDetail α)
  | exponentialQuadratic (d : ExponentialQuadraticDetail α)
  | exponential (d : ExponentialDetail α)
  | logarithmic (d : LogarithmicDetail α)
  | growth (d : GrowthDetail α)
  | halfLife (d : HalfLifeDetail α)
  | linear (d : LinearDetail α)
  | system (d : SystemDetail α)

structure Solution (α : Type) where
  category : Kind
  /-- The answer in words, such as "One solution". -/
  label : String
  set : SolutionSet α
  /-- Whether another method had to take over from the one asked for. -/
  fallback : Bool
  notes : List String
  detail : Detail α

/-- An answer found by the method asked for, with nothing to remark. -/
def Solution.plain {α : Type} (category : Kind) (label : String) (set : SolutionSet α)
    (detail : Detail α) : Solution α :=
  ⟨category, label, set, false, [], detail⟩

end EquationTutor
