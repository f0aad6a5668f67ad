import EquationTutor.Numeric.Scalar

namespace EquationTutor

def fractionDigits (n : Nat) : List Char :=
  let digits := Nat.toDigits 10 n
  let padded := List.replicate (6 - digits.length) '0' ++ digits
  (padded.reverse.dropWhile (· = '0')).reverse

def millionthsText (n : Int) : String :=
  let whole := Nat.toDigits 10 (n.natAbs / 1000000)
  let fraction := fractionDigits (n.natAbs % 1000000)
  let sign := if n < 0 then ['-'] else []
  let point := if fraction.isEmpty then [] else ['.']
  String.ofList (sign ++ whole ++ point ++ fraction)

variable {α : Type} [Scalar α]

open Scalar

/-- A number with six decimal places, trailing zeros trimmed. -/
def shown (x : α) : String :=
  if isNotANumber x then "NaN"
  else if isFinite x then millionthsText (millionths x)
  else if 0 < x then "∞"
  else "-∞"

def shownFactor (x : α) : String :=
  if x < 0 && !isZero x then s!"({shown x})" else shown x

def termBody (coefficient : α) (monomial : String) : String :=
  let magnitude := absValue coefficient
  if monomial.isEmpty then shown magnitude
  else if isZero (magnitude - 1) then monomial
  else s!"{shown magnitude}{monomial}"

/-- Sign of a term that opens a sum, or that joins one. -/
def termSign (opens : Bool) (coefficient : α) : String :=
  match opens, decide (coefficient < 0) with
  | true, true => "-"
  | true, false => ""
  | false, true => " - "
  | false, false => " + "

/-- A signed sum of terms whose unsigned text `body` gives, zero terms left out. -/
def shownSum {β : Type} (coefficient : β → α) (body : β → String) (terms : List β) : String :=
  match terms.filter fun t => !isZero (coefficient t) with
  | [] => "0"
  | t :: ts =>
    termSign true (coefficient t) ++ body t ++
      String.join (ts.map fun u => termSign false (coefficient u) ++ body u)

def shownTerms (terms : List (α × String)) : String :=
  shownSum Prod.fst (fun t => termBody t.1 t.2) terms

def shownQuadratic (a b c : α) (variableName : String) : String :=
  shownTerms [(a, variableName ++ "²"), (b, variableName), (c, "")]

def shownLinear (m b : α) (variableName : String) : String :=
  shownTerms [(m, variableName), (b, "")]

def shownBinomial (variableName : String) (shift : α) : String :=
  if isZero shift then variableName
  else if shift < 0 then s!"{variableName} - {shown (-shift)}"
  else s!"{variableName} + {shown shift}"

def shownEach (label joint : String) (xs : List α) : String :=
  joint.intercalate (xs.map fun x => label ++ shown x)

end EquationTutor
