import EquationTutor.Solve.Inequality

namespace EquationTutor.Solve

open Scalar

variable {α : Type} [Scalar α]

/-- A coefficient that defaults to 1 and must not count as zero. -/
def leading (p : Params α) (key : String) : Except (Failure α) α := do
  let k := p.numberD key 1
  checkLeading k
  return k

/-- `k · base^x = result`. -/
def solveSimpleExponential (p : Params α) : Except (Failure α) (Solution α) := do
  let k ← leading p "coefficient"
  let base ← requireBase p .simpleExponential
  let result ← require p "result" .simpleExponential
  let ln ← lnBase base
  let isolated := result / k
  if isolated ≤ 0 then
    .error (.noSolution s!"{shown base}^x is always positive and cannot equal {shown isolated}")
  else
    return .plain .simpleExponential "One real solution" (.discrete [Scalar.ln isolated / ln])
      (.exponential ⟨k, base, 1, result, isolated, false⟩)

/-- `k · e^(r x) = result`. -/
def solveNaturalExponential (p : Params α) : Except (Failure α) (Solution α) := do
  let k ← leading p "coefficient"
  let rate := p.numberD "rate" 1
  let result ← require p "result" .naturalExponential
  let isolated := result / k
  if isZero rate then .error (.noSolution "the exponent does not depend on x")
  else if isolated ≤ 0 then
    .error (.noSolution
      s!"e^({shown rate}x) is always positive and cannot equal {shown isolated}")
  else
    return .plain .naturalExponential "One real solution" (.discrete [Scalar.ln isolated / rate])
      (.exponential ⟨k, euler, rate, result, isolated, true⟩)

/-- Whether a number that is never positive relates so to every positive one. -/
def holdsForPositive : Relation → Bool
  | .gt | .ge | .ne => true
  | .lt | .le | .eq => false

/-- The answer to `k · base^x op bound` for the logarithm of the base. Dividing
by a negative coefficient, and by a negative logarithm, turns the relation
round. -/
def exponentialInequality (k base bound ln : α) (r : Relation) : Solution α :=
  let isolatedBound := bound / k
  let divided := if k < 0 then r.flip else r
  let behavior : Trend := if 0 < ln then .growth else .decay
  let reversed : Bool := ln < 0
  let isolated := if reversed then divided.flip else divided
  let critical := Scalar.ln isolatedBound / ln
  let outside : Bool := isolatedBound ≤ 0
  let set : SolutionSet α :=
    if outside then if holdsForPositive divided then .allReals else .empty
    else isolatedSet critical isolated
  .plain .exponentialInequality (describeSet set) set
    (.exponentialInequality
      { coefficient := k
        base := base
        bound := bound
        relation := r
        isolatedRelation := if outside then divided else isolated
        lnBase := ln
        criticalValue := if outside then none else some critical
        behavior := behavior
        reversed := reversed })

def solveExponentialInequality (p : Params α) : Except (Failure α) (Solution α) := do
  let k ← leading p "coefficient"
  let base ← requireBase p .exponentialInequality
  let bound ← require p "bound" .exponentialInequality
  let r ← relation p .exponentialInequality
  let ln ← lnBase base
  return exponentialInequality k base bound ln r

/-- Label and solutions, for the roots in `u` and the values of `x` they give. -/
def exponentialQuadraticSet (uRoots values : List α) : String × SolutionSet α :=
  if uRoots.isEmpty then ("No real solutions", .empty)
  else
    match values with
    | [] => ("No valid solutions", .empty)
    | [x] => ("One real solution", .discrete [x])
    | xs => ("Two real solutions", .discrete xs)

/-- `a · base^(2x) + b · base^x + c = 0`, a quadratic in `u = base^x`. Only
positive `u` are values of a power. -/
def solveExponentialQuadratic (p : Params α) : Except (Failure α) (Solution α) := do
  let a := p.numberD "a" 1
  let b := p.numberD "b" 0
  let c := p.numberD "c" 0
  let base ← requireBase p .exponentialQuadratic
  let ln ← lnBase base
  let (delta, roots) ← quadraticRoots a b c
  let uRoots := roots.real
  let (kept, rejected) := uRoots.partition fun u => decide (tolerance < u)
  let values := dedup (sort (kept.map fun u => Scalar.ln u / ln))
  let (label, set) := exponentialQuadraticSet uRoots values
  let notes :=
    if rejected.isEmpty then []
    else
      let list := shownEach "" ", " rejected
      [s!"Rejected u = {list} because {shown base}^x is always positive"]
  return { Solution.plain .exponentialQuadratic label set
      (.exponentialQuadratic ⟨a, b, c, base, delta, uRoots, rejected⟩) with notes := notes }

/-- `log_base(x) = result`. -/
def solveLogarithmic (p : Params α) : Except (Failure α) (Solution α) := do
  let natural := (p.text? "base").any fun t => Text.trim t = "e"
  let base := (base? p).getD 10
  let _ ← lnBase base
  let result ← require p "result" .logarithmicEquation
  return .plain .logarithmicEquation "One real solution" (.discrete [pow base result])
    (.logarithmic ⟨base, result, natural⟩)

end EquationTutor.Solve
