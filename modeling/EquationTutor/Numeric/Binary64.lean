namespace EquationTutor

/-- The number `± significand · 2 ^ exponent`. -/
structure Binary64 where
  negative : Bool
  significand : Nat
  exponent : Int
  deriving DecidableEq

namespace Binary64

def leadingBit : Nat :=
  0x10000000000000

def signBit : Nat :=
  0x8000000000000000

def ofFloat? (x : Float) : Option Binary64 :=
  let bits := x.toBits.toNat
  let negative := signBit ≤ bits
  let biased : Nat := bits / leadingBit % 2048
  let fraction : Nat := bits % leadingBit
  if biased = 2047 then none
  else if biased = 0 then some ⟨negative, fraction, -1074⟩
  else some ⟨negative, leadingBit + fraction, (biased : Int) - 1075⟩

/-- Numerator of the magnitude over `denominator`. -/
def numerator (b : Binary64) : Nat :=
  b.significand * Nat.pow 2 b.exponent.toNat

def denominator (b : Binary64) : Nat :=
  Nat.pow 2 (-b.exponent).toNat

def roundHalfUp (num den : Nat) : Nat :=
  (2 * num + den) / (2 * den)

def roundHalfEven (num den : Nat) : Nat :=
  let q := num / den
  let r := num % den
  if 2 * r < den then q
  else if den < 2 * r then q + 1
  else if q % 2 = 0 then q else q + 1

def signed (negative : Bool) (n : Nat) : Int :=
  if negative then -(n : Int) else n

/-- The nearest integer, halves away from zero. -/
def nearest (b : Binary64) : Int :=
  signed b.negative (roundHalfUp b.numerator b.denominator)

/-- The nearest multiple of `1 / scale`, halves to even, in units of it. -/
def nearestOver (scale : Nat) (b : Binary64) : Int :=
  signed b.negative (roundHalfEven (scale * b.numerator) b.denominator)

end Binary64

end EquationTutor
