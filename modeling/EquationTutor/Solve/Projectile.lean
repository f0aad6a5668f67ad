import EquationTutor.Solve.Quadratic
import EquationTutor.Text.Lowercase
/-!
Vertical motion under gravity, `h(t) = -gt² + v₀t + h₀`, where `g` is half the
acceleration. Without a target height the answer is the greatest height; with
one it is every time after launch at which that height is reached.
-/

namespace EquationTutor.Solve

open Scalar

variable {α : Type} [Scalar α]

def height (gravity v0 h0 t : α) : α :=
  -gravity * t * t + v0 * t + h0

def unitsOf (p : Params α) : UnitSystem :=
  match (p.text? "units").map fun u => Text.lowercaseAscii (Text.trim u) with
  | some u => if ["metric", "meters", "metres", "m"].contains u then .metric else .imperial
  | none => .imperial

/-- The gravity given, if it is positive, and else that of the units. -/
def gravityOf (p : Params α) : α :=
  ((p.number? "gravity").filter fun g => tolerance < g).getD (unitsOf p).gravity

/-- Discriminant and non-negative roots of `-gt² + v₀t + c = 0`, ascending. A
root that is only just negative counts as 0. -/
def timesAt (gravity v0 c : α) : Except (Failure α) (α × List α) := do
  let (delta, roots) ← quadraticRoots (-gravity) v0 c
  let times := (roots.real.filter fun t => decide (-tolerance ≤ t)).map fun t => larger t 0
  return (delta, dedupBy (fun s t => decide (absValue (t - s) < tolerance)) times)

def targetAnswer (units : UnitSystem) (maxHeight target : α) (times : List α) :
    Except (Failure α) (String × SolutionSet α) :=
  match times with
  | [] =>
    let unit := units.length
    .error (.noSolution (s!"the projectile never reaches a height of {shown target} {unit}; " ++
      s!"its maximum height is {shown maxHeight} {unit}"))
  | [t] => .ok ("Reaches the target height once", .discrete [t])
  | ts => .ok ("Reaches the target height twice, rising and falling", .discrete ts)

def solveProjectile (p : Params α) : Except (Failure α) (Solution α) := do
  if (p.number? "initial_velocity").isNone && (p.number? "initial_height").isNone then
    .error (.insufficientParameters .projectileMotion "initial velocity or initial height")
  else
    let v0 := p.numberD "initial_velocity" 0
    let h0 := p.numberD "initial_height" 0
    let units := unitsOf p
    let gravity := gravityOf p
    let timeToMaxHeight := larger (v0 / (2 * gravity)) 0
    let maxHeight := height gravity v0 h0 timeToMaxHeight
    let (_, landings) ← timesAt gravity v0 h0
    let detail (target delta : Option α) (times : List α) : Detail α :=
      .projectile
        { units := units
          gravity := gravity
          initialVelocity := v0
          initialHeight := h0
          targetHeight := target
          targetDiscriminant := delta
          targetTimes := times
          timeToMaxHeight := timeToMaxHeight
          maxHeight := maxHeight
          flightTime := (landings.filter fun t => decide (tolerance < t)).getLast? }
    match p.number? "target_height" with
    | none =>
      return .plain .projectileMotion "Maximum height" (.quantity "maximum height" maxHeight)
        (detail none none [])
    | some target =>
      let (delta, times) ← timesAt gravity v0 (h0 - target)
      let (label, set) ← targetAnswer units maxHeight target times
      return .plain .projectileMotion label set (detail (some target) (some delta) times)

end EquationTutor.Solve
