import EquationTutor.Interval

namespace EquationTutor

structure Complex (α : Type) where
  re : α
  im : α

namespace Complex

variable {α : Type} [Scalar α]

def conj (z : Complex α) : Complex α :=
  ⟨z.re, -z.im⟩

def text (z : Complex α) : String :=
  let sign := if z.im < 0 then "-" else "+"
  s!"{shown z.re} {sign} {shown (Scalar.absValue z.im)}i"

end Complex

inductive SolutionSet (α : Type) where
  /-- Real numbers, in ascending order. -/
  | discrete (values : List α)
  | complex (values : List (Complex α))
  /-- A union of disjoint intervals, in ascending order. -/
  | intervals (pieces : List (Interval α))
  | allReals
  | empty
  /-- The one solution of a system in two variables. -/
  | point (x y : α)
  /-- All points of a line. -/
  | infinite
  /-- A named number, such as a time or an amount. -/
  | quantity (name : String) (value : α)

namespace SolutionSet

variable {α : Type} [Scalar α]

def realValues : SolutionSet α → List α
  | discrete values => values
  | _ => []

/-- Whether the set holds no real number that could be substituted. -/
def isStructural : SolutionSet α → Bool
  | complex _ | empty | infinite => true
  | discrete values => values.isEmpty
  | _ => false

def listText (texts : List String) : String :=
  "\x7b" ++ ", ".intercalate texts ++ "\x7d"

def text : SolutionSet α → String
  | discrete [] => "∅"
  | discrete values => listText (values.map shown)
  | complex values => listText (values.map Complex.text)
  | intervals pieces => Interval.unionText pieces
  | allReals => "(-∞, ∞)"
  | empty => "∅"
  | point x y => s!"({shown x}, {shown y})"
  | infinite => "infinitely many"
  | quantity name value => s!"{name} = {shown value}"

end SolutionSet

end EquationTutor
