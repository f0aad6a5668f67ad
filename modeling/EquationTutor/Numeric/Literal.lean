import EquationTutor.Numeric.Scalar

namespace EquationTutor

/-- What a number text denotes before it is rounded. -/
inductive Literal where
  /-- `± digits · 10 ^ exponent`. -/
  | decimal (negative : Bool) (digits : Nat) (exponent : Int)
  | infinity (negative : Bool)
  | notANumber
  deriving DecidableEq

namespace Literal

def natOfDigits (cs : List Char) : Nat :=
  cs.foldl (fun n c => 10 * n + (c.toNat - '0'.toNat)) 0

def splitSign : List Char → Bool × List Char
  | '-' :: cs => (true, cs)
  | '+' :: cs => (false, cs)
  | cs => (false, cs)

/-- The exponent written by `cs`, which is all that follows the digits. -/
def exponentOfChars? : List Char → Option Int
  | [] => some 0
  | mark :: cs =>
    let (negative, digits) := splitSign cs
    if (mark = 'e' || mark = 'E') && !digits.isEmpty && digits.all Char.isDigit then
      some (if negative then -(natOfDigits digits : Int) else natOfDigits digits)
    else none

def splitPoint (cs : List Char) : List Char × List Char × List Char :=
  let whole := cs.takeWhile Char.isDigit
  match cs.dropWhile Char.isDigit with
  | '.' :: rest => (whole, rest.takeWhile Char.isDigit, rest.dropWhile Char.isDigit)
  | rest => (whole, [], rest)

def decimalOfChars? (negative : Bool) (cs : List Char) : Option Literal :=
  let (whole, fraction, rest) := splitPoint cs
  if whole.isEmpty && fraction.isEmpty then none
  else
    (exponentOfChars? rest).map fun e =>
      decimal negative (natOfDigits (whole ++ fraction)) (e - fraction.length)

def ofChars? (cs : List Char) : Option Literal :=
  let (negative, body) := splitSign cs
  let word := String.ofList (body.map Char.toLower)
  if word = "inf" || word = "infinity" then some (infinity negative)
  else if word = "nan" then some notANumber
  else decimalOfChars? negative body

def ofString? (s : String) : Option Literal :=
  ofChars? s.toList

variable {α : Type} [Scalar α]

def value : Literal → α
  | decimal false m e => Scalar.ofDecimal m e
  | decimal true m e => -Scalar.ofDecimal m e
  | infinity false => Scalar.infinity
  | infinity true => -Scalar.infinity
  | notANumber => Scalar.notANumber

end Literal

end EquationTutor
