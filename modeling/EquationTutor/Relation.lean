import EquationTutor.Numeric.Scalar
import EquationTutor.Text.Blank

namespace EquationTutor

inductive Relation where
  | eq
  | ne
  | lt
  | gt
  | le
  | ge
  deriving DecidableEq

namespace Relation

def all : List Relation :=
  [eq, ne, lt, gt, le, ge]

/-- The operator in typewriter characters. -/
def operator : Relation → String
  | eq => "="
  | ne => "!="
  | lt => "<"
  | gt => ">"
  | le => "<="
  | ge => ">="

/-- The operator in print. -/
def symbol : Relation → String
  | eq => "="
  | ne => "≠"
  | lt => "<"
  | gt => ">"
  | le => "≤"
  | ge => "≥"

/-- Reads an operator in either spelling; `==` is also an equality. -/
def ofString? (s : String) : Option Relation :=
  let token := Text.trim s
  if token = "==" then some eq
  else all.find? fun r => r.operator = token || r.symbol = token

/-- The relation after both sides are multiplied by a negative number. -/
def flip : Relation → Relation
  | lt => gt
  | gt => lt
  | le => ge
  | ge => le
  | eq => eq
  | ne => ne

def isInclusive : Relation → Bool
  | eq | le | ge => true
  | ne | lt | gt => false

def isInequality (r : Relation) : Bool :=
  r ≠ eq

variable {α : Type} [Scalar α]

/-- Whether `x` and `y` are related when sides closer than `margin` count as
equal, so that an inclusive relation accepts a residual at its boundary and a
strict one rejects it. -/
def holdsWithin (margin : α) (r : Relation) (x y : α) : Bool :=
  let equal : Bool := Scalar.absValue (x - y) < margin
  match r with
  | eq => equal
  | ne => !equal
  | lt => x < y && !equal
  | gt => y < x && !equal
  | le => x < y || equal
  | ge => y < x || equal

def holds (r : Relation) (x y : α) : Bool :=
  r.holdsWithin Scalar.tolerance x y

end Relation

end EquationTutor
