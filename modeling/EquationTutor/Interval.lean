import EquationTutor.Numeric.Display

namespace EquationTutor

inductive Bound (α : Type) where
  | negInfinity
  | posInfinity
  /-- An end point that is left out. -/
  | openAt (value : α)
  /-- An end point that is taken in. -/
  | closedAt (value : α)

namespace Bound

variable {α : Type} [Scalar α]

def value : Bound α → α
  | negInfinity => -Scalar.infinity
  | posInfinity => Scalar.infinity
  | openAt v => v
  | closedAt v => v

def endPoint? {α : Type} : Bound α → Option α
  | openAt v | closedAt v => some v
  | negInfinity | posInfinity => none

def isClosed : Bound α → Bool
  | closedAt _ => true
  | _ => false

/-- Whether `x` lies on the right side of a lower bound. -/
def isBelow (x : α) : Bound α → Bool
  | negInfinity => true
  | posInfinity => false
  | openAt a => a < x
  | closedAt a => a ≤ x

/-- Whether `x` lies on the left side of an upper bound. -/
def isAbove (x : α) : Bound α → Bool
  | negInfinity => false
  | posInfinity => true
  | openAt b => x < b
  | closedAt b => x ≤ b

def same : Bound α → Bound α → Bool
  | negInfinity, negInfinity => true
  | posInfinity, posInfinity => true
  | openAt a, openAt b => a == b
  | closedAt a, closedAt b => a == b
  | _, _ => false

end Bound

structure Interval (α : Type) where
  lower : Bound α
  upper : Bound α

namespace Interval

variable {α : Type} [Scalar α]

def point (v : α) : Interval α :=
  ⟨.closedAt v, .closedAt v⟩

def line : Interval α :=
  ⟨.negInfinity, .posInfinity⟩

def isLine : Interval α → Bool
  | ⟨.negInfinity, .posInfinity⟩ => true
  | _ => false

def isPoint : Interval α → Bool
  | ⟨.closedAt a, .closedAt b⟩ => a == b
  | _ => false

def contains (i : Interval α) (x : α) : Bool :=
  i.lower.isBelow x && i.upper.isAbove x

/-- A number of the interval: 0 for the whole line, one step inside the finite
end of a ray, and the middle of anything else. -/
def sample : Interval α → α
  | ⟨.negInfinity, .posInfinity⟩ => 0
  | ⟨.negInfinity, upper⟩ => upper.value - 1
  | ⟨lower, .posInfinity⟩ => lower.value + 1
  | ⟨lower, upper⟩ => (lower.value + upper.value) / 2

/-- Interval notation; a single point stands in braces. -/
def text (i : Interval α) : String :=
  if i.isPoint then s!"\x7b{shown i.lower.value}\x7d"
  else
    let left :=
      match i.lower with
      | .negInfinity => "(-∞"
      | .posInfinity => "(∞"
      | .openAt a => s!"({shown a}"
      | .closedAt a => s!"[{shown a}"
    let right :=
      match i.upper with
      | .negInfinity => "-∞)"
      | .posInfinity => "∞)"
      | .openAt b => s!"{shown b})"
      | .closedAt b => s!"{shown b}]"
    s!"{left}, {right}"

def unionText (is : List (Interval α)) : String :=
  if is.isEmpty then "∅" else " ∪ ".intercalate (is.map text)

end Interval

end EquationTutor
