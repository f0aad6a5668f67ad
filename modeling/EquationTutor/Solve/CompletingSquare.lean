import EquationTutor.Solve.Quadratic

namespace EquationTutor.Solve

open Scalar

variable {α : Type} [Scalar α]

/-- `a(x + h)² + k` without a unit factor and without a zero `k`. -/
def vertexForm (a h k : α) : String :=
  let binomial := shownBinomial "x" h
  let square := s!"({binomial})²"
  let lead :=
    if isZero (a - 1) then square
    else if isZero (a + 1) then s!"-{square}"
    else s!"{shown a}{square}"
  if isZero k then lead
  else if k < 0 then s!"{lead} - {shown (-k)}"
  else s!"{lead} + {shown k}"

/-- The roots of `(x + h)² = remainder`, with their nature. -/
def rootsOfSquare (h remainder : α) : QuadraticRoots α :=
  if tolerance < remainder then
    let root := sqrt remainder
    .two (-h - root) (-h + root)
  else if absValue remainder ≤ tolerance then .one (-h)
  else
    let z : Complex α := ⟨-h, sqrt (-remainder)⟩
    .complexPair z z.conj

def solveCompletingSquare (p : Params α) : Except (Failure α) (Solution α) := do
  let (a, b, c) ← quadraticCoefficients p .completingSquare
  checkLeading a
  let bOverA := b / a
  let cOverA := c / a
  let halfB := bOverA / 2
  let halfBSquared := halfB * halfB
  let remainder := halfBSquared - cOverA
  let k := c - a * halfBSquared
  let roots := rootsOfSquare halfB remainder
  return .plain .completingSquare roots.nature.label roots.toSet
    (.completingSquare
      { a := a
        b := b
        c := c
        bOverA := bOverA
        cOverA := cOverA
        halfB := halfB
        halfBSquared := halfBSquared
        remainder := remainder
        vertexForm := vertexForm a halfB k
        vertex := ⟨-halfB, k⟩ })

end EquationTutor.Solve
