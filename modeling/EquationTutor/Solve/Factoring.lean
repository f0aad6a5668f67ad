import EquationTutor.Solve.Quadratic

namespace EquationTutor.Solve

open Scalar

/-- The greatest constant term for which factor pairs are searched. -/
def searchLimit : Nat :=
  1000000

/-- The pair `p ≤ q` made of `p` and the complementary factor of `c`, if it adds
up to `b`. -/
def pairWith (b c p : Int) : Option (Int × Int) :=
  let q := c.tdiv p
  if p + q = b then some (min p q, max p q) else none

/-- The positive divisors of `n` up to its square root, for `n` within the
search limit. -/
def smallDivisors (n : Nat) : List Nat :=
  (List.range' 1 1000).filter fun i => i * i ≤ n && n % i = 0

/-- The `p ≤ q` with `p q = c` and `p + q = b`. -/
def findFactorPair (b c : Int) : Option (Int × Int) :=
  if c = 0 then some (min 0 b, max 0 b)
  else if searchLimit < c.natAbs then none
  else
    (smallDivisors c.natAbs).findSome? fun i : Nat =>
      (pairWith b c (i : Int)).orElse fun _ => pairWith b c (-(i : Int))

/-- The leading coefficient when it divides the others and is not 1. -/
def leadingCommonFactor (a b c : Int) : Option Int :=
  if Nat.gcd (Int.gcd a b) c.natAbs = a.natAbs && a ≠ 1 then some a else none

def factorIntegers (a b c : Int) : Option (Option Int × Int × Int) :=
  let common := leadingCommonFactor a b c
  let k := common.getD 1
  if k = a then (findFactorPair (b.tdiv k) (c.tdiv k)).map fun pair => (common, pair)
  else none

variable {α : Type} [Scalar α]

/-- Whether a coefficient is an integer small enough for the search. -/
def isSearchable (v : α) : Bool :=
  isIntegral v && absValue v ≤ 1e12

/-- `(x + p)(x + q)`, or a square. -/
def binomialProduct (p q : α) : String :=
  let first := shownBinomial "x" p
  let second := shownBinomial "x" q
  if p == q then s!"({first})²" else s!"({first})({second})"

def factoredForm (common : Option α) (p q : α) : String :=
  let body := binomialProduct p q
  match common with
  | some k => if k == -1 then s!"-{body}" else s!"{shown k}{body}"
  | none => body

def fallbackNote : String :=
  "Could not factor with integers, used quadratic formula instead"

def factoredSolution (quadratic : QuadraticDetail α) (common : Option Int) (p q : Int) :
    Solution α :=
  let k : Option α := common.map ofInt
  .plain .factoringQuadratic quadratic.nature.label (.discrete (dedup [-ofInt q, -ofInt p]))
    (.factoring
      { commonFactor := k
        pair := some (ofInt p, ofInt q)
        factoredForm := some (factoredForm k (ofInt p) (ofInt q))
        quadratic := quadratic })

def solveFactoring (p : Params α) : Except (Failure α) (Solution α) := do
  let (a, b, c) ← quadraticCoefficients p .factoringQuadratic
  let (delta, roots) ← quadraticRoots a b c
  let quadratic := quadraticDetail a b c delta roots.nature
  let factors :=
    if isSearchable a && isSearchable b && isSearchable c then
      factorIntegers (nearest a) (nearest b) (nearest c)
    else none
  match factors with
  | some (common, p, q) => return factoredSolution quadratic common p q
  | none =>
    let s ← solveCoefficients .factoringQuadratic a b c
    return { s with
      fallback := true
      notes := s.notes ++ [fallbackNote]
      detail := .factoring ⟨none, none, none, quadratic⟩ }

end EquationTutor.Solve
