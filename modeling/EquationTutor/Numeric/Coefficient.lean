import EquationTutor.Numeric.Literal
import EquationTutor.Text.Blank

namespace EquationTutor

variable {α : Type} [Scalar α]

def literalOrZero (cs : List Char) : α :=
  match Literal.ofChars? cs with
  | some l => l.value
  | none => 0

/-- A coefficient without blanks and without a fraction bar: nothing or a lone
sign stands for a unit, and one leading `+` is dropped. -/
def coefficientOfChars : List Char → α
  | [] => 1
  | ['+'] => 1
  | ['-'] => -1
  | '+' :: cs => literalOrZero cs
  | cs => literalOrZero cs

/-- Coefficient text: blanks do not count, `a/b` is a quotient whose numerator
is itself a coefficient, and a zero denominator gives 0. -/
def parseCoefficient (s : String) : α :=
  let cs := s.toList.filter fun c => !Text.isBlank c
  match cs.dropWhile (· ≠ '/') with
  | [] => coefficientOfChars cs
  | _ :: below =>
    let denominator : α := literalOrZero below
    if denominator == 0 then 0
    else coefficientOfChars (cs.takeWhile (· ≠ '/')) / denominator

/-- Coefficient of an optional term: a term that is absent counts 0. -/
def parseTerm : Option String → α
  | none => 0
  | some s => parseCoefficient s

/-- Amount text such as `1,250.50`: commas do not count. -/
def parseAmount (s : String) : α :=
  literalOrZero (Text.trim (String.ofList (s.toList.filter (· ≠ ',')))).toList

end EquationTutor
