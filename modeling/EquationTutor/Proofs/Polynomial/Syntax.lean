import EquationTutor.Numeric.Literal
import EquationTutor.Relation

namespace EquationTutor.PolynomialText

/-- A number without sign: the digits before and after the point. -/
structure Unsigned where
  whole : List Char
  fraction : List Char
  isDigit_whole : ∀ c ∈ whole, c.isDigit = true
  isDigit_fraction : ∀ c ∈ fraction, c.isDigit = true
  ne_nil : whole ≠ [] ∨ fraction ≠ []

namespace Unsigned

/-- Without a fraction there is no point. -/
def chars (n : Unsigned) : List Char :=
  match n.fraction with
  | [] => n.whole
  | ds => n.whole ++ '.' :: ds

def value {α : Type} [Scalar α] (n : Unsigned) : α :=
  Scalar.ofDecimal (Literal.natOfDigits (n.whole ++ n.fraction)) (0 - n.fraction.length)

end Unsigned

inductive Sign where
  | plus
  | minus
  deriving DecidableEq

def Sign.char : Sign → Char
  | plus => '+'
  | minus => '-'

inductive Power where
  | constant
  | linear
  | square
  deriving DecidableEq

namespace Power

def tokens : Power → List (List Char)
  | constant => []
  | linear => [['x']]
  | square => [['x'], ['^'], ['2']]

def degree : Power → Nat
  | constant => 0
  | linear => 1
  | square => 2

end Power

/-- A number, a multiple of `x` or one of `x^2`. -/
structure Term where
  sign : Option Sign
  factor : Option Unsigned
  power : Power
  isSome_factor : power = .constant → factor.isSome = true

namespace Term

/-- What is written before the variable. -/
def lead (t : Term) : List (List Char) :=
  t.sign.toList.map (fun s => [s.char]) ++ t.factor.toList.map Unsigned.chars

def tokens (t : Term) : List (List Char) :=
  t.lead ++ t.power.tokens

variable {α : Type} [Scalar α]

/-- A factor that is not written is a unit. -/
def coefficient (t : Term) : α :=
  let size : α := t.factor.elim 1 Unsigned.value
  if t.sign = some .minus then -size else size

end Term

/-- A sum of terms, of which only the first may have no sign. -/
structure Side where
  first : Term
  rest : List Term
  isSome_sign : ∀ t ∈ rest, t.sign.isSome = true

namespace Side

def terms (s : Side) : List Term :=
  s.first :: s.rest

def tokens (s : Side) : List (List Char) :=
  s.terms.flatMap Term.tokens

end Side

end PolynomialText

open PolynomialText

structure PolynomialRelation where
  left : Side
  relation : Relation
  right : Side
  relation_ne : relation ≠ .ne

/-- The tokens one after another, each followed by characters that may stand between
tokens. -/
def Spelled (gap : Char → Bool) : List (List Char) → List Char → Prop
  | [], cs => cs = []
  | t :: ts, cs => ∃ g rest, cs = t ++ g ++ rest ∧ (∀ c ∈ g, gap c = true) ∧ Spelled gap ts rest

namespace PolynomialRelation

def tokens (p : PolynomialRelation) : List (List Char) :=
  p.left.tokens ++ p.relation.operator.toList :: p.right.tokens

/-- Whether the text is the relation, with any blanks around its tokens. -/
def Writes (p : PolynomialRelation) (text : String) : Prop :=
  ∃ g rest, text.toList = g ++ rest ∧ (∀ c ∈ g, Text.isBlank c = true) ∧
    Spelled Text.isBlank p.tokens rest

end PolynomialRelation

end EquationTutor
