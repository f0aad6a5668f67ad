import EquationTutor.Numeric.Double
import EquationTutor.Numeric.Literal
import EquationTutor.Toml.Value

namespace EquationTutor.Toml

/-- A run of digits in which single underscores may separate digits. -/
def digits? (isDigit : Char → Bool) (cs : List Char) : Option (List Char × List Char) :=
  let run := cs.takeWhile fun c => isDigit c || c = '_'
  if separated false run then
    some (run.filter isDigit, cs.dropWhile fun c => isDigit c || c = '_')
  else none
where
  /-- Every underscore stands between two digits. -/
  separated : (afterDigit : Bool) → List Char → Bool
    | afterDigit, [] => afterDigit
    | afterDigit, c :: rest =>
      if isDigit c then separated true rest else afterDigit && separated false rest

/-- The first integer that does not fit in 64 bits, `2 ^ 63`. -/
def integerLimit : Int :=
  0x8000000000000000

def integer? (n : Int) : Option Value :=
  if -integerLimit ≤ n ∧ n < integerLimit then some (.integer n) else none

def natOfDigits (base : Nat) (digits : List Char) : Nat :=
  digits.foldl (fun n c => base * n + valueOf c) 0
where
  valueOf (c : Char) : Nat :=
    if c.isDigit then c.toNat - '0'.toNat else c.toLower.toNat - 'a'.toNat + 10

def isHexDigit (c : Char) : Bool :=
  c.isDigit || ('a' ≤ c.toLower && c.toLower ≤ 'f')

/-- The base that follows a leading zero, and its digits. -/
def base? : Char → Option (Nat × (Char → Bool))
  | 'x' => some (16, isHexDigit)
  | 'o' => some (8, fun c => '0' ≤ c && c ≤ '7')
  | 'b' => some (2, fun c => c = '0' || c = '1')
  | _ => none

def exponent? : List Char → Option (Int × List Char)
  | 'e' :: cs | 'E' :: cs =>
    let (negative, cs) := Literal.splitSign cs
    (digits? Char.isDigit cs).map fun (ds, rest) =>
      let n : Int := Literal.natOfDigits ds
      (if negative then -n else n, rest)
  | cs => some (0, cs)

/-- A double, which may be too small but not too large to be finite. -/
def real? (l : Literal) : Option Value :=
  let x : Float := l.value
  if x == Scalar.infinity then none else some (.real x)

def fraction? (negative : Bool) (whole : List Char) :
    List Char → Option (Value × List Char)
  | '.' :: cs => do
    let (ds, cs) ← digits? Char.isDigit cs
    let (e, cs) ← exponent? cs
    let v ← real? (.decimal negative (Literal.natOfDigits (whole ++ ds)) (e - ds.length))
    return (v, cs)
  | cs => do
    let n : Int := Literal.natOfDigits whole
    if cs.head?.any fun c => c = 'e' || c = 'E' then
      let (e, cs) ← exponent? cs
      return (← real? (.decimal negative n.natAbs e), cs)
    else return (← integer? (if negative then -n else n), cs)

/-- A number in base ten without superfluous leading zeros. -/
def decimal? (negative : Bool) (cs : List Char) : Option (Value × List Char) := do
  let (whole, cs) ← digits? Char.isDigit cs
  if whole.length ≠ 1 ∧ whole.head? = some '0' then none
  else fraction? negative whole cs

def unsigned? (negative : Bool) : List Char → Option (Value × List Char)
  | 'i' :: 'n' :: 'f' :: cs => some (.real (Literal.infinity negative).value, cs)
  | 'n' :: 'a' :: 'n' :: cs => some (.real Literal.notANumber.value, cs)
  | cs => decimal? negative cs

def number? : List Char → Option (Value × List Char)
  | '0' :: mark :: cs =>
    match base? mark with
    | some (base, isDigit) => do
      let (ds, rest) ← digits? isDigit cs
      return (← integer? (natOfDigits base ds), rest)
    | none => unsigned? false ('0' :: mark :: cs)
  | cs =>
    let (negative, cs) := Literal.splitSign cs
    unsigned? negative cs

end EquationTutor.Toml
