import EquationTutor.Solve.Quadratic
/-!
Linear and quadratic inequalities.

A quadratic inequality is decided piece by piece: between two neighbouring
critical points the sign does not change, so one test point settles each piece.
-/

namespace EquationTutor.Solve

open Scalar

variable {α : Type} [Scalar α]

/-- The solutions of `x op rhs`. -/
def isolatedSet (rhs : α) : Relation → SolutionSet α
  | .eq => .discrete [rhs]
  | .ne => .intervals [⟨.negInfinity, .openAt rhs⟩, ⟨.openAt rhs, .posInfinity⟩]
  | .lt => .intervals [⟨.negInfinity, .openAt rhs⟩]
  | .gt => .intervals [⟨.openAt rhs, .posInfinity⟩]
  | .le => .intervals [⟨.negInfinity, .closedAt rhs⟩]
  | .ge => .intervals [⟨.closedAt rhs, .posInfinity⟩]

/-- The union of the intervals; the whole line and nothing have their own sets. -/
def setOfIntervals {α : Type} (pieces : List (Interval α)) : SolutionSet α :=
  match pieces with
  | [] => .empty
  | [i] => if i.isLine then .allReals else .intervals [i]
  | _ => .intervals pieces

def describeSet (set : SolutionSet α) : String :=
  match set with
  | .allReals => "All real numbers"
  | .empty => "No solution"
  | _ => set.text

/-- A piece of the line with the answer on it. -/
structure Cell (α : Type) where
  piece : Interval α
  satisfies : Bool

/-- The runs of neighbouring cells that satisfy, each as one interval. `run` is
the one that the cells before have left open. -/
def mergeCells {α : Type} (run : Option (Interval α)) : List (Cell α) → List (Interval α)
  | [] => run.toList
  | c :: cs =>
    if c.satisfies then
      mergeCells (some ⟨(run.getD c.piece).lower, c.piece.upper⟩) cs
    else run.toList ++ mergeCells none cs

/-- The open pieces between critical points, the first with the given lower
bound. -/
def openPieces {α : Type} (lower : Bound α) : List α → List (Interval α)
  | [] => [⟨lower, .posInfinity⟩]
  | c :: cs => ⟨lower, .openAt c⟩ :: openPieces (.openAt c) cs

def testPiece (r : Relation) (f : α → α) (piece : Interval α) : TestPoint α :=
  let point := piece.sample
  let value := f point
  ⟨piece, point, value, r.holds value 0⟩

/-- The tested pieces with the critical points between them. -/
def interleave (atCritical : Bool) : List (TestPoint α) → List α → List (Cell α)
  | t :: ts, c :: cs =>
    ⟨t.interval, t.satisfies⟩ :: ⟨.point c, atCritical⟩ :: interleave atCritical ts cs
  | ts, _ => ts.map fun t => ⟨t.interval, t.satisfies⟩

/-- Solves `f(x) op 0` for an `f` that changes its sign at the critical points
only, which are in ascending order. They are solutions iff equality is. -/
def solveByTestPoints (critical : List α) (r : Relation) (f : α → α) :
    SolutionSet α × List (TestPoint α) :=
  let tests := (openPieces .negInfinity critical).map (testPiece r f)
  (setOfIntervals (mergeCells none (interleave (r.holds (0 : α) 0) tests critical)), tests)

def solveQuadraticInequality (p : Params α) : Except (Failure α) (Solution α) := do
  let (a, b, c) ← quadraticCoefficients p .quadraticInequality
  let r ← relation p .quadraticInequality
  let (delta, roots) ← quadraticRoots a b c
  let (set, tests) := solveByTestPoints roots.real r (quadraticAt a b c)
  return .plain .quadraticInequality (describeSet set) set
    (.quadraticInequality
      { a := a
        b := b
        c := c
        relation := r
        discriminant := delta
        criticalPoints := roots.real
        tests := tests })

def linearInequality (m b c : α) (r : Relation) : Solution α :=
  let constant := isZero m
  let boundary := (c - b) / m
  let isolated := if !constant && m < 0 then r.flip else r
  let set : SolutionSet α :=
    if constant then if r.holds b c then .allReals else .empty
    else isolatedSet boundary isolated
  .plain .linearInequality (describeSet set) set
    (.linearInequality
      { m := m
        b := b
        c := c
        relation := r
        isolatedRelation := isolated
        boundary := if constant then none else some boundary
        flipped := m < 0 && !constant })

def solveLinearInequality (p : Params α) : Except (Failure α) (Solution α) := do
  let m ← require p "m" .linearInequality
  let r ← relation p .linearInequality
  return linearInequality m (p.numberD "b" 0) (p.numberD "c" 0) r

end EquationTutor.Solve
