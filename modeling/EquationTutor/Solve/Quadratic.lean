import EquationTutor.Solution.Basic
import EquationTutor.Solve.Required

namespace EquationTutor.Solve

open Scalar

variable {α : Type} [Scalar α]

def discriminant (a b c : α) : α :=
  b * b - 4 * a * c

def quadraticAt (a b c x : α) : α :=
  a * x * x + b * x + c

inductive QuadraticRoots (α : Type) where
  /-- Distinct real roots, in ascending order. -/
  | two (x y : α)
  | one (x : α)
  /-- A root with positive imaginary part, and its conjugate. -/
  | complexPair (z w : Complex α)

namespace QuadraticRoots

def nature {α : Type} : QuadraticRoots α → RootNature
  | two _ _ => .twoReal
  | one _ => .oneReal
  | complexPair _ _ => .complexPair

def real {α : Type} : QuadraticRoots α → List α
  | two x y => [x, y]
  | one x => [x]
  | complexPair _ _ => []

def toSet {α : Type} : QuadraticRoots α → SolutionSet α
  | complexPair z w => .complex [z, w]
  | roots => .discrete roots.real

end QuadraticRoots

/-- The roots of `ax² + bx + c` for a discriminant. Distinct real roots are
`q / a` and `c / q` with `q = -(b ± √Δ) / 2`, the sign chosen so that nothing
cancels. -/
def rootsOf (a b c delta : α) : QuadraticRoots α :=
  if tolerance < delta then
    let root := sqrt delta
    let sign : α := if 0 ≤ b then 1 else -1
    let q := -0.5 * (b + sign * root)
    .two (smaller (q / a) (c / q)) (larger (q / a) (c / q))
  else if absValue delta ≤ tolerance then .one (-b / (2 * a))
  else
    let z : Complex α := ⟨-b / (2 * a), sqrt (-delta) / absValue (2 * a)⟩
    .complexPair z z.conj

def checkLeading (a : α) : Except (Failure α) Unit :=
  if absValue a < tolerance then .error (.leadingCoefficient a) else .ok ()

def quadraticRoots (a b c : α) : Except (Failure α) (α × QuadraticRoots α) := do
  checkLeading a
  let delta := discriminant a b c
  return (delta, rootsOf a b c delta)

def quadraticDetail (a b c delta : α) (nature : RootNature) : QuadraticDetail α :=
  let h := -b / (2 * a)
  { a := a
    b := b
    c := c
    discriminant := delta
    nature := nature
    vertex := ⟨h, a * h * h + b * h + c⟩
    axisOfSymmetry := h
    yIntercept := c
    sumOfRoots := -b / a
    productOfRoots := c / a }

def solveCoefficients (kind : Kind) (a b c : α) : Except (Failure α) (Solution α) := do
  let (delta, roots) ← quadraticRoots a b c
  return .plain kind roots.nature.label roots.toSet
    (.quadratic (quadraticDetail a b c delta roots.nature))

def solveQuadratic (kind : Kind) (p : Params α) : Except (Failure α) (Solution α) := do
  let (a, b, c) ← quadraticCoefficients p kind
  solveCoefficients kind a b c

end EquationTutor.Solve
