/-!
The numbers the solvers compute with. Every solver is written once over this
class, so that it can be run on doubles and read over any other numbers.

Literals of generic code go through `OfScientific`. Magnitudes below `tolerance`
count as zero.
-/

namespace EquationTutor

/-- Arithmetic, order tests, roots, logarithms and powers. The two infinities
and `notANumber` are the answers of an arithmetic that has them. -/
class Scalar (α : Type) where
  [toAdd : Add α]
  [toSub : Sub α]
  [toMul : Mul α]
  [toDiv : Div α]
  [toNeg : Neg α]
  [toLT : LT α]
  [toLE : LE α]
  [toBEq : BEq α]
  [toOfScientific : OfScientific α]
  decidableLT : DecidableLT α
  decidableLE : DecidableLE α
  /-- An integer as a number. -/
  ofInt : Int → α
  /-- `m · 10 ^ e`. -/
  ofDecimal : Nat → Int → α
  infinity : α
  notANumber : α
  euler : α
  /-- The natural logarithm of 2. -/
  lnTwo : α
  isNotANumber : α → Bool
  isFinite : α → Bool
  absValue : α → α
  smaller : α → α → α
  larger : α → α → α
  sqrt : α → α
  ln : α → α
  exp : α → α
  pow : α → α → α
  /-- A total order test that agrees with `≤` on distinct numbers. -/
  totalLE : α → α → Bool
  /-- The nearest integer, halves away from zero. -/
  nearest : α → Int
  /-- The nearest number of millionths, halves to even. -/
  millionths : α → Int

namespace Scalar

variable {α : Type} [Scalar α]

-- Numbers that have an arithmetic of their own keep it.
instance (priority := 10) : Add α := toAdd

instance (priority := 10) : Sub α := toSub

instance (priority := 10) : Mul α := toMul

instance (priority := 10) : Div α := toDiv

instance (priority := 10) : Neg α := toNeg

instance (priority := 10) : LT α := toLT

instance (priority := 10) : LE α := toLE

instance (priority := 10) : BEq α := toBEq

instance (priority := 10) : OfScientific α := toOfScientific

instance (priority := 10) : DecidableLT α := decidableLT

instance (priority := 10) : DecidableLE α := decidableLE

instance (priority := 10) (n : Nat) : OfNat α n :=
  ⟨OfScientific.ofScientific n false 0⟩

/-- Values of smaller magnitude are treated as zero by the solvers. -/
def tolerance : α := 1e-10

/-- Checks of an answer accept residuals below this bound. -/
def checkTolerance : α := 1e-9

def isZero (x : α) : Bool :=
  absValue x < tolerance

def isIntegral (x : α) : Bool :=
  isFinite x && isZero (x - ofInt (nearest x))

def dedupBy {β : Type} (same : β → β → Bool) : List β → List β
  | [] => []
  | x :: xs =>
    match dedupBy same xs with
    | [] => [x]
    | y :: ys => if same x y then x :: ys else x :: y :: ys

def dedup (xs : List α) : List α :=
  dedupBy (· == ·) xs

def sort (xs : List α) : List α :=
  xs.mergeSort totalLE

end Scalar

end EquationTutor
