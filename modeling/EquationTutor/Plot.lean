import EquationTutor.Solve.Growth
import EquationTutor.Solve.Quadratic

namespace EquationTutor

inductive Plot (α : Type) where
  | parabola (function : String) (vertex : Point α) (xIntercepts : List α) (yIntercept : α)
      (axisOfSymmetry : α) (opensUpward : Bool) (xRange : α × α) (shaded : List (Interval α))
  | exponential (function : String) (base : α) (horizontalAsymptote : α) (xRange : α × α)
      (markedX : List α) (shaded : List (Interval α))
  | line (function : String) (slope intercept : α) (xRange : α × α) (shaded : List (Interval α))
  | linePair (first second : String) (intersection : Option (Point α))
  /-- `unitFactor` is the multiplier of a unit of time. -/
  | growthCurve (function : String) (initial unitFactor horizon : α)

namespace Plot

open Scalar

variable {α : Type} [Scalar α]

def window (center : α) : α × α :=
  (center - 10, center + 10)

def shadedBy : SolutionSet α → List (Interval α)
  | .intervals pieces => pieces
  | .allReals => [.line]
  | .discrete values => values.map .point
  | _ => []

def ofQuadratic (a b c : α) (xIntercepts : List α) (shaded : List (Interval α)) : Plot α :=
  let h := -b / (2 * a)
  let f := shownQuadratic a b c "x"
  parabola s!"y = {f}" ⟨h, a * h * h + b * h + c⟩ xIntercepts c h (0 < a) (window h) shaded

def zerosOf (a b c : α) : List α :=
  match Solve.quadraticRoots a b c with
  | .ok (_, roots) => roots.real
  | .error _ => []

/-- `y = k·base^exponent`, with parentheses around an exponent other than `x`. -/
def exponentialFunction (k : α) (base exponent : String) : String :=
  let power := if exponent = "x" then s!"{base}^x" else s!"{base}^({exponent})"
  if isZero (k - 1) then s!"y = {power}"
  else if isZero (k + 1) then s!"y = -{power}"
  else s!"y = {shown k}·{power}"

/-- The flight of a projectile, which starts at time 0. -/
def ofProjectile (d : ProjectileDetail α) : Plot α :=
  let landing := d.flightTime.getD (2 * d.timeToMaxHeight)
  let f := shownQuadratic (-d.gravity) d.initialVelocity d.initialHeight "t"
  parabola s!"h(t) = {f}" ⟨d.timeToMaxHeight, d.maxHeight⟩ d.flightTime.toList d.initialHeight
    d.timeToMaxHeight false (0, if 0 < landing then landing else 10)
    (d.targetTimes.map .point)

def ofExponentialQuadratic (d : ExponentialQuadraticDetail α) (marked : List α) : Plot α :=
  let f := shownQuadratic d.a d.b d.c "u"
  exponential s!"y = {f}, u = {shown d.base}^x" d.base d.c (window (marked.head?.getD 0)) marked []

def ofExponential (d : ExponentialDetail α) (marked : List α) : Plot α :=
  let base := if d.natural then "e" else shown d.base
  exponential (exponentialFunction d.coefficient base (shownLinear d.rate 0 "x")) d.base 0
    (window (marked.head?.getD 0)) marked []

def ofLine (m b center : α) (shaded : List (Interval α)) : Plot α :=
  let f := shownLinear m b "x"
  line s!"y = {f}" m b (window center) shaded

def lineEquation (a b c : α) : String :=
  let sum := shownTerms [(a, "x"), (b, "y")]
  s!"{sum} = {shown c}"

def ofSystem (d : SystemDetail α) (set : SolutionSet α) : Plot α :=
  linePair (lineEquation d.a1 d.b1 d.c1) (lineEquation d.a2 d.b2 d.c2)
    (match set with
    | .point x y => some ⟨x, y⟩
    | _ => none)

def ofGrowth (d : GrowthDetail α) : Plot α :=
  growthCurve d.formula d.principal (Solve.growthFactor d.law d.trend d.rate 1) (larger d.time 1)

def ofHalfLife (d : HalfLifeDetail α) : Plot α :=
  growthCurve
    (match d.trend with
    | .growth => "A = A₀·2^(t/d)"
    | .decay => "A = A₀·(1/2)^(t/h)")
    (d.initial.getD 1) (exp (d.trend.sign * d.k)) (d.time.getD (4 * d.characteristicTime))

end Plot

open Plot in
def Solution.plot? {α : Type} [Scalar α] (s : Solution α) : Option (Plot α) :=
  let values := s.set.realValues
  match s.detail with
  | .quadratic d => some (ofQuadratic d.a d.b d.c values [])
  | .factoring d => some (ofQuadratic d.quadratic.a d.quadratic.b d.quadratic.c values [])
  | .completingSquare d => some (ofQuadratic d.a d.b d.c values [])
  | .quadraticInequality d =>
    some (ofQuadratic d.a d.b d.c (zerosOf d.a d.b d.c) (shadedBy s.set))
  | .projectile d => some (ofProjectile d)
  | .vertexAnalysis d =>
    some (ofQuadratic d.quadratic.a d.quadratic.b d.quadratic.c d.xIntercepts [])
  | .exponentialInequality d =>
    some (.exponential (exponentialFunction d.coefficient (shown d.base) "x") d.base 0
      (window (d.criticalValue.getD 0)) d.criticalValue.toList (shadedBy s.set))
  | .exponentialQuadratic d => some (ofExponentialQuadratic d values)
  | .exponential d => some (ofExponential d values)
  | .linear d => some (ofLine d.m d.b (values.head?.getD 0) [])
  | .linearInequality d => some (ofLine d.m d.b (d.boundary.getD 0) (shadedBy s.set))
  | .system d => some (ofSystem d s.set)
  | .growth d => some (ofGrowth d)
  | .halfLife d => some (ofHalfLife d)
  | .logarithmic _ => none

end EquationTutor
