import EquationTutor.Solution.Basic
import EquationTutor.Solve.Factoring
import EquationTutor.Step.Basic

namespace EquationTutor.Step

open Scalar

variable {α : Type} [Scalar α]

/-- `x = 2 or x = 3`. -/
def solutionsText (values : List α) : String :=
  if values.isEmpty then "no real solutions" else shownEach "x = " " or " values

def complexText (values : List (Complex α)) : String :=
  " or ".intercalate (values.map fun z => "x = " ++ z.text)

def quadraticEquation (a b c : α) : String :=
  shownQuadratic a b c "x" ++ " = 0"

def givenQuadratic (a b c : α) : Step :=
  of .givenEquation "Start with the quadratic equation in standard form"
    |>.withExpression (quadraticEquation a b c)
    |>.withReasoning "A quadratic equation has the form ax² + bx + c = 0 with a ≠ 0"

def coefficientsText (a b c : α) : String :=
  s!"a = {shown a}, b = {shown b}, c = {shown c}"

def natureReasoning : RootNature → String
  | .twoReal => "Δ > 0, so there are two distinct real solutions"
  | .oneReal => "Δ = 0, so there is exactly one repeated real solution"
  | .complexPair => "Δ < 0, so the solutions are complex conjugates"

def formulaRule : String :=
  "x = (-b ± √(b² - 4ac)) / 2a"

def repeatedRootSteps (minusB twoA : String) (set : SolutionSet α) : List Step :=
  [of .applyQuadraticFormula "With Δ = 0 the ± term vanishes"
    |>.withFormula "x = -b / 2a"
    |>.transform "x = (-b ± √Δ) / 2a" s!"x = {minusB} / {twoA}"
    |>.withRule formulaRule,
   of .calculateSolution "Divide to get the single solution"
    |>.transform s!"x = {minusB} / {twoA}" (solutionsText set.realValues)
    |>.withReasoning "The parabola touches the x-axis at its vertex"]

def applyFormula (applied : String) : Step :=
  of .applyQuadraticFormula "Substitute into the quadratic formula"
    |>.withFormula "x = (-b ± √Δ) / 2a"
    |>.transform "x = (-b ± √Δ) / 2a" applied
    |>.withRule formulaRule

def complexRootSteps (minusB twoA : String) (delta : α) (values : List (Complex α)) : List Step :=
  [applyFormula s!"x = ({minusB} ± √({shown delta})) / {twoA}",
   of .identifyComplexSolutions "Write the square root of the negative discriminant with i"
    |>.transform s!"√({shown delta}) = {shown (sqrt (-delta))}i" (complexText values)
    |>.withRule "√(-k) = i√k"
    |>.withReasoning "The parabola never crosses the x-axis, so there is no real solution"]

def branchSteps (minusB twoA : String) (delta : α) (set : SolutionSet α) : List Step :=
  let root := shown (sqrt (larger delta 0))
  let applied := s!"x = ({minusB} ± √{shown delta}) / {twoA}"
  let simplified := s!"x = ({minusB} ± {root}) / {twoA}"
  [applyFormula applied,
   of .simplifySquareRoot "Evaluate the square root of the discriminant"
    |>.transform applied simplified
    |>.withOperation s!"√{shown delta} = {root}",
   of .calculateSolutions "Take the + and - branches separately"
    |>.transform simplified (solutionsText set.realValues)
    |>.withReasoning "Each branch gives one point where the parabola crosses the x-axis"]

/-- The quadratic formula from reading off the coefficients on. -/
def formulaSteps (d : QuadraticDetail α) (set : SolutionSet α) : List Step :=
  let minusB := shown (-d.b)
  let twoA := shown (2 * d.a)
  let substituted :=
    s!"Δ = {shownFactor d.b}² - 4·{shownFactor d.a}·{shownFactor d.c} = {shown d.discriminant}"
  [of .identifyCoefficients "Read off the coefficients of x², x and the constant"
    |>.withExpression (coefficientsText d.a d.b d.c)
    |>.withReasoning "Each coefficient is the number multiplying its power of x",
   of .calculateDiscriminant "Compute the discriminant"
    |>.withFormula "Δ = b² - 4ac"
    |>.transform "Δ = b² - 4ac" substituted
    |>.withOperation "substitute a, b and c"
    |>.withReasoning (natureReasoning d.nature)] ++
  match d.nature, set with
  | .oneReal, _ => repeatedRootSteps minusB twoA set
  | .complexPair, .complex values => complexRootSteps minusB twoA d.discriminant values
  | _, _ => branchSteps minusB twoA d.discriminant set

def ofQuadratic (d : QuadraticDetail α) (set : SolutionSet α) : List Step :=
  givenQuadratic d.a d.b d.c :: formulaSteps d set

def commonFactorStep (q : QuadraticDetail α) (k b c : α) : Step :=
  let reduced := shownQuadratic 1 b c "x"
  of .factorOutCommon s!"Every coefficient is divisible by {shown k}"
    |>.transform (quadraticEquation q.a q.b q.c) s!"{shown k}({reduced}) = 0"
    |>.withOperation s!"factor out {shown k}"
    |>.withReasoning "A nonzero factor never makes the product zero, so it can be set aside"

def factorPairStep (b c p r : α) : Step :=
  of .findFactorPair s!"Find two integers with product {shown c} and sum {shown b}"
    |>.withExpression s!"p = {shown p}, q = {shown r}"
    |>.withReasoning
      (s!"{shownFactor p}·{shownFactor r} = {shown (p * r)} and " ++
        s!"{shownFactor p} + {shownFactor r} = {shown (p + r)}")

def factorEquations (p r : α) : String :=
  let first := shownBinomial "x" p
  let second := shownBinomial "x" r
  if p == r then s!"{first} = 0" else s!"{first} = 0 or {second} = 0"

/-- The factorization `(x + p)(x + r)` of a quadratic, which is written out in
full as `form`. -/
def factoredSteps (d : FactoringDetail α) (p r : α) (form : String) (set : SolutionSet α) :
    List Step :=
  let q := d.quadratic
  let k := d.commonFactor.getD 1
  let b := q.b / k
  let c := q.c / k
  let reduced := Solve.binomialProduct p r
  let factors := factorEquations p r
  givenQuadratic q.a q.b q.c ::
    ((if d.commonFactor.isSome then [commonFactorStep q k b c] else []) ++
    [factorPairStep b c p r,
     of .factorQuadratic "Write the quadratic as a product of binomials"
      |>.transform (quadraticEquation 1 b c) s!"{reduced} = 0"
      |>.withRule "x² + (p + q)x + pq = (x + p)(x + q)"
      |>.withHint s!"Fully factored: {form}",
     of .zeroProduct "A product is zero exactly when one of its factors is zero"
      |>.transform s!"{reduced} = 0" factors
      |>.withRule "AB = 0 ⇒ A = 0 or B = 0",
     of .solveForX "Solve each linear factor"
      |>.transform factors (solutionsText set.realValues)])

def ofFactoring (d : FactoringDetail α) (set : SolutionSet α) : List Step :=
  match d.pair, d.factoredForm with
  | some (p, r), some form => factoredSteps d p r form set
  | _, _ =>
    let q := d.quadratic
    givenQuadratic q.a q.b q.c ::
      (of .cannotFactor "No integer pair multiplies to c and adds to b"
        |>.withExpression (quadraticEquation q.a q.b q.c)
        |>.withReasoning "Switch to the quadratic formula, which always works") ::
      formulaSteps q set

def squareRootSteps (d : SquareDetail α) (binomial square : String) (set : SolutionSet α) :
    List Step :=
  match set with
  | .complex values =>
    [of .identifyComplexSolutions
        "A square cannot be negative for real x, so the roots are complex"
      |>.transform square (complexText values)
      |>.withRule "√(-k) = i√k"]
  | _ =>
    let root := s!"{binomial} = ±{shown (sqrt (larger d.remainder 0))}"
    [of .takeSquareRoot "Take the square root of both sides"
      |>.transform square root
      |>.withReasoning "Both the positive and the negative root square to the right side",
     of .solveForX s!"Subtract {shownFactor d.halfB} from both sides"
      |>.transform root (solutionsText set.realValues)]

def ofSquare (d : SquareDetail α) (set : SolutionSet α) : List Step :=
  let monic := quadraticEquation 1 d.bOverA d.cOverA
  let variablePart := shownTerms [(1, "x²"), (d.bOverA, "x")]
  let moved := s!"{variablePart} = {shown (-d.cOverA)}"
  let completed := s!"{variablePart} + {shown d.halfBSquared} = {shown d.remainder}"
  let binomial := shownBinomial "x" d.halfB
  let square := s!"({binomial})² = {shown d.remainder}"
  givenQuadratic d.a d.b d.c ::
    ((if isZero (d.a - 1) then []
      else
        [of .divideLeading s!"Divide every term by {shown d.a}"
          |>.transform (quadraticEquation d.a d.b d.c) monic
          |>.withOperation s!"÷ {shown d.a}"]) ++
    [of .moveConstant "Move the constant term to the right side"
      |>.transform monic moved
      |>.withOperation s!"subtract {shownFactor d.cOverA}",
     of .completeSquare s!"Add (b/2)² = {shown d.halfBSquared} to both sides"
      |>.transform moved completed
      |>.withFormula "(b/2)²"
      |>.withReasoning
        s!"Half of {shown d.bOverA} is {shown d.halfB}, and its square is {shown d.halfBSquared}",
     of .factorPerfectSquare "The left side is now a perfect square"
      |>.transform completed square
      |>.withRule "x² + 2hx + h² = (x + h)²"
      |>.withHint s!"Vertex form: {d.vertexForm}"] ++
    squareRootSteps d binomial square set)

def testText (r : Relation) (t : TestPoint α) : String :=
  let verdict := if t.satisfies then "✓" else "✗"
  s!"x = {shown t.point}: {shown t.value} {r.symbol} 0 {verdict}"

def ofQuadraticInequality (d : QuadraticInequalityDetail α) (label : String) : List Step :=
  let left := shownQuadratic d.a d.b d.c "x"
  let noRoots := d.criticalPoints.isEmpty
  [of .givenInequality "Start with the quadratic inequality"
    |>.withExpression s!"{left} {d.relation.symbol} 0"
    |>.withReasoning "The sign of a quadratic can only change where it equals zero",
   of .solveRelatedEquation "Find the critical points from the related equation"
    |>.transform (quadraticEquation d.a d.b d.c)
      (if noRoots then "no real roots" else solutionsText d.criticalPoints)
    |>.withOperation s!"Δ = {shown d.discriminant}"] ++
  (if noRoots then []
    else
      [of .identifyTestIntervals "The critical points split the number line into intervals"
        |>.withExpression (", ".intercalate (d.tests.map fun t => t.interval.text))]) ++
  [of .testEachInterval "Evaluate the quadratic at one test point per interval"
    |>.withExpression ("; ".intercalate (d.tests.map (testText d.relation)))
    |>.withReasoning
      (if d.relation.isInclusive then
        "The critical points are included because the relation allows equality"
      else "The critical points are excluded because the relation is strict"),
   of .writeSolution "Collect the intervals that satisfy the inequality"
    |>.withExpression label
    |>.withHint "Shade the parts of the parabola on the correct side of the x-axis"]

/-- Where on its flight the object is at a time. -/
def phase (peak t : α) : String :=
  if absValue (t - peak) < checkTolerance then "at the peak"
  else if t < peak then "on the way up"
  else "on the way down"

/-- From the height function to the times of a target height. -/
def targetSteps (d : ProjectileDetail α) (target : α) (function : String) : List Step :=
  let unit := d.units.length
  let equation :=
    shownQuadratic (-d.gravity) d.initialVelocity (d.initialHeight - target) "t" ++ " = 0"
  let moment (t : α) := s!"t = {shown t} s ({phase d.timeToMaxHeight t})"
  let moments := " and ".intercalate (d.targetTimes.map moment)
  [of .setTargetHeight s!"Set h(t) = {shown target} and move every term to one side"
    |>.transform s!"{function} = {shown target}" equation
    |>.withOperation s!"subtract {shownFactor target}",
   of .solveForTime "Solve the quadratic in t with the quadratic formula"
    |>.withFormula "t = (-b ± √Δ) / 2a"
    |>.transform equation (shownEach "t = " " or " d.targetTimes)
    |>.withOperation s!"Δ = {shown (d.targetDiscriminant.getD 0)}"
    |>.withRule "t = (-b ± √(b² - 4ac)) / 2a",
   of .interpretTimes "Keep the times after launch"
    |>.withExpression s!"h = {shown target} {unit} at {moments}"
    |>.withReasoning "Negative times describe the moment before launch and are rejected"]

def timeOfMaxStep (d : ProjectileDetail α) : Step :=
  let step :=
    of .findTimeOfMax "The maximum occurs at the vertex of the parabola"
      |>.withFormula "t = -b / 2a = v₀ / 2g"
  let v0 := d.initialVelocity
  let peak := shown d.timeToMaxHeight
  if 0 < v0 then
    step
      |>.transform "t = v₀ / 2g" s!"t = {shown v0} / {shown (2 * d.gravity)} = {peak}"
      |>.withOperation "substitute v₀ and g"
  else
    step
      |>.withExpression "t = 0"
      |>.withReasoning "With no upward velocity the object is highest at the moment of release"

def maxHeightStep (d : ProjectileDetail α) : Step :=
  let t := shown d.timeToMaxHeight
  let step :=
    of .computeMaxHeight "Evaluate the height at the vertex time"
      |>.transform s!"h({t})" s!"h({t}) = {shown d.maxHeight} {d.units.length}"
      |>.withOperation s!"substitute t = {t}"
  match d.flightTime with
  | some flight => step.withHint s!"It lands at t = {shown flight} s"
  | none => step

def ofProjectile (d : ProjectileDetail α) : List Step :=
  let unit := d.units.length
  let function :=
    "h(t) = " ++ shownQuadratic (-d.gravity) d.initialVelocity d.initialHeight "t"
  [of .writeHeightFunction "Model the height with the projectile formula"
    |>.withFormula "h(t) = -gt² + v₀t + h₀"
    |>.withExpression function
    |>.withReasoning
      (s!"g = {shown d.gravity} {unit}/s² is half the acceleration due to gravity, " ++
        s!"v₀ = {shown d.initialVelocity} {unit}/s and h₀ = {shown d.initialHeight} {unit}"),
   timeOfMaxStep d,
   maxHeightStep d] ++
  match d.targetHeight with
  | some target => targetSteps d target function
  | none => []

def extremumStep (d : VertexDetail α) (h k : String) : Step :=
  let opens := if 0 < d.quadratic.a then "upward" else "downward"
  let step :=
    of .determineExtremum
        s!"The parabola opens {opens}, so the vertex is a {d.extremum.label}"
      |>.withExpression s!"{d.extremum.title} value f({h}) = {k}"
      |>.withReasoning
        (match d.extremum with
        | .minimum => "a > 0: every other output is larger than k"
        | .maximum => "a < 0: every other output is smaller than k")
  match d.requested with
  | some goal =>
    if goal = d.extremum then step else step.withHint s!"This function has no {goal.label}"
  | none => step

def describeGraphStep (d : VertexDetail α) : Step :=
  let step :=
    of .describeGraph "Describe the graph as a transformation of y = x²"
      |>.withExpression
        (if d.transformations.isEmpty then "Same as y = x²"
        else "; ".intercalate d.transformations)
  if d.xIntercepts.isEmpty then step
  else step.withHint ("x-intercepts: " ++ solutionsText d.xIntercepts)

def ofVertex (d : VertexDetail α) : List Step :=
  let q := d.quadratic
  let h := shown q.vertex.x
  let k := shown q.vertex.y
  let function := "f(x) = " ++ shownQuadratic q.a q.b q.c "x"
  [of .givenFunction "Start with the quadratic function"
    |>.withExpression function
    |>.withReasoning "The graph of a quadratic function is a parabola",
   of .identifyCoefficients "Read off the coefficients of x², x and the constant"
    |>.withExpression (coefficientsText q.a q.b q.c),
   of .findVertex "Locate the vertex on the axis of symmetry"
    |>.withFormula "h = -b / 2a, k = f(h)"
    |>.transform "h = -b / 2a" s!"h = {shown (-q.b)} / {shown (2 * q.a)} = {h}"
    |>.withOperation s!"k = f({h}) = {k}"
    |>.withHint s!"Vertex ({h}, {k})",
   of .writeVertexForm "Rewrite the function around its vertex"
    |>.transform function s!"f(x) = {d.vertexForm}"
    |>.withRule "f(x) = a(x - h)² + k",
   describeGraphStep d,
   of .stateRange "Every output lies on one side of the vertex value"
    |>.withExpression s!"Range: {d.range.text}",
   extremumStep d h k]

end EquationTutor.Step
