import EquationTutor.Numeric.Binary64
/-!
The fewest decimal digits that read back as the same double.

A double stands for all numbers nearer to it than to its neighbours. Of the
decimals in that interval with the fewest digits, the one nearest to the double
is taken.
-/

namespace EquationTutor

/-- The number `± digits · 10 ^ exponent`. -/
structure Decimal where
  negative : Bool
  digits : Nat
  exponent : Int
  deriving DecidableEq

namespace Decimal

/-- Number of decimal digits, none for zero. -/
def digitCount (n : Nat) : Nat :=
  if n = 0 then 0 else (Nat.toDigits 10 n).length

/-- The exponent `e` with `10 ^ (e - 1) ≤ num / den < 10 ^ e`. -/
def magnitude (num den : Nat) : Int :=
  if den ≤ num then digitCount (num / den)
  else 1 - (digitCount ((den - 1) / num) : Int)

/-- The interval of numbers that round to a double: the double and the two ends
are `value / den`, `low / den` and `high / den`. -/
structure Interval where
  den : Nat
  value : Nat
  low : Nat
  high : Nat
  closed : Bool

/-- The interval of a positive fraction. The lower neighbour of a power of two
is only half as far away. -/
def Interval.of (b : Binary64) : Interval :=
  let scale := Nat.pow 2 b.exponent.toNat
  let below := if b.significand = Binary64.leadingBit && -1074 < b.exponent then 1 else 2
  { den := 4 * b.denominator
    value := 4 * b.significand * scale
    low := (4 * b.significand - below) * scale
    high := (4 * b.significand + 2) * scale
    closed := b.significand % 2 = 0 }

def Interval.contains (i : Interval) (num den : Nat) : Bool :=
  let x := num * i.den
  if i.closed then i.low * den ≤ x && x ≤ i.high * den
  else i.low * den < x && x < i.high * den

/-- The multiple of `10 ^ e` nearest to the value among its two neighbours that
lie in the interval, the greater of two equally near ones. -/
def Interval.onGrid (i : Interval) (e : Int) : Option Nat :=
  let up := Nat.pow 10 e.toNat
  let down := Nat.pow 10 (-e).toNat
  let floor := i.value * down / (i.den * up)
  let low := i.contains (floor * up) down
  let high := i.contains ((floor + 1) * up) down
  let nearLow := 2 * (i.value * down) < (2 * floor + 1) * (i.den * up)
  if low && (nearLow || !high) then some floor
  else if high then some (floor + 1)
  else none

/-- The coarsest of the grids `10 ^ e`, `10 ^ (e - 1)`, … that has a point in the
interval, with that point. -/
def Interval.search (i : Interval) (e : Int) : Nat → Nat × Int
  | 0 => (0, e)
  | n + 1 =>
    match i.onGrid e with
    | some d => (d, e)
    | none => i.search (e - 1) n

def dropZeros (digits : Nat) (exponent : Int) : Nat → Nat × Int
  | 0 => (digits, exponent)
  | n + 1 =>
    if digits % 10 = 0 then dropZeros (digits / 10) (exponent + 1) n
    else (digits, exponent)

def shortest (b : Binary64) : Decimal :=
  if b.significand = 0 then ⟨b.negative, 0, 0⟩
  else
    let i := Interval.of b
    let (d, e) := i.search (magnitude i.value i.den) 20
    let (d, e) := dropZeros d e 20
    ⟨b.negative, d, e⟩

def digitChars (d : Decimal) : List Char :=
  Nat.toDigits 10 d.digits

def split (d : Decimal) : List Char × List Char :=
  let ds := d.digitChars
  if 0 ≤ d.exponent then (ds ++ List.replicate d.exponent.toNat '0', [])
  else
    let places := (-d.exponent).toNat
    if places < ds.length then (ds.take (ds.length - places), ds.drop (ds.length - places))
    else (['0'], List.replicate (places - ds.length) '0' ++ ds)

def signChars (d : Decimal) : List Char :=
  if d.negative then ['-'] else []

/-- Positional notation, without a point when no digit follows it. -/
def positional (d : Decimal) : String :=
  let (whole, fraction) := d.split
  String.ofList (d.signChars ++ whole ++ (if fraction.isEmpty then [] else '.' :: fraction))

def scientific (d : Decimal) : String :=
  let ds := d.digitChars
  let exponent := d.exponent + (ds.length - 1 : Int)
  let fraction := if ds.length ≤ 1 then [] else '.' :: ds.drop 1
  String.ofList (d.signChars ++ ds.take 1 ++ fraction) ++ s!"e{exponent}"

end Decimal

namespace Double

def unboundedText (x : Float) : String :=
  if x.isNaN then "NaN" else if x < 0 then "-inf" else "inf"

def plain (x : Float) : String :=
  match Binary64.ofFloat? x with
  | some b => (Decimal.shortest b).positional
  | none => unboundedText x

def scientific (x : Float) : String :=
  match Binary64.ofFloat? x with
  | some b => (Decimal.shortest b).scientific
  | none => unboundedText x

end Double

end EquationTutor
