import EquationTutor.Solution.Basic
import EquationTutor.Solve.Required

namespace EquationTutor.Solve

open Scalar

variable {α : Type} [Scalar α]

/-- Label and solutions of `m x + b = c`. -/
def linearSet (m b c : α) : String × SolutionSet α :=
  if isZero m then
    if isZero (b - c) then ("All real numbers (identity)", .allReals)
    else ("No solution (contradiction)", .empty)
  else ("One solution", .discrete [(c - b) / m])

def solveLinear (p : Params α) : Except (Failure α) (Solution α) := do
  let m ← require p "m" .simpleLinear
  let b := p.numberD "b" 0
  let c := p.numberD "c" 0
  let (label, set) := linearSet m b c
  return .plain .simpleLinear label set (.linear ⟨m, b, c⟩)

/-- Label and solutions of a system with the given determinants. Without a
determinant the lines are parallel or the same. -/
def systemSet (determinant detX detY : α) : String × SolutionSet α :=
  if isZero determinant then
    if isZero detX && isZero detY then ("Infinitely many solutions (dependent)", .infinite)
    else ("No solution (inconsistent)", .empty)
  else ("Unique solution", .point (detX / determinant) (detY / determinant))

/-- The answer to `a₁x + b₁y = c₁`, `a₂x + b₂y = c₂` by Cramer's rule. -/
def linearSystem (a1 b1 c1 a2 b2 c2 : α) : Solution α :=
  let determinant := a1 * b2 - a2 * b1
  let detX := c1 * b2 - c2 * b1
  let detY := a1 * c2 - a2 * c1
  let (label, set) := systemSet determinant detX detY
  .plain .linearSystem label set (.system ⟨a1, b1, c1, a2, b2, c2, determinant, detX, detY⟩)

def solveSystem (p : Params α) : Except (Failure α) (Solution α) := do
  let a1 ← require p "a1" .linearSystem
  let b1 ← require p "b1" .linearSystem
  let c1 ← require p "c1" .linearSystem
  let a2 ← require p "a2" .linearSystem
  let b2 ← require p "b2" .linearSystem
  let c2 ← require p "c2" .linearSystem
  return linearSystem a1 b1 c1 a2 b2 c2

end EquationTutor.Solve
