import EquationTutor.Numeric.Binary64
import EquationTutor.Numeric.Scalar

namespace EquationTutor.Double

/-- `m · 10 ^ e` rounded to a double. Exponents far outside the range of doubles
are settled without computing the power. -/
def ofDecimal (m : Nat) (e : Int) : Float :=
  let digits : Int := (Nat.toDigits 10 m).length
  if m = 0 then 0
  else if 310 < digits + e then 1 / 0
  else if digits + e < -330 then 0
  else if e < 0 then Float.ofScientific m true e.natAbs
  else Float.ofScientific m false e.natAbs

/-- The place of a double in the total order that sets `-0` before `0` and a
positive NaN last. -/
def rank (x : Float) : Int :=
  let bits := x.toBits.toNat
  if bits < Binary64.signBit then bits else (Binary64.signBit : Int) - 1 - bits

/-- The smaller number; an operand that is no number gives way. -/
def smaller (x y : Float) : Float :=
  if y.isNaN || x < y then x else y

def larger (x y : Float) : Float :=
  if y.isNaN || y < x then x else y

instance : Scalar Float where
  decidableLT := inferInstance
  decidableLE := inferInstance
  ofInt := Float.ofInt
  ofDecimal := ofDecimal
  infinity := 1 / 0
  notANumber := 0 / 0
  euler := 2.718281828459045
  lnTwo := 0.6931471805599453
  isNotANumber := Float.isNaN
  isFinite := Float.isFinite
  absValue := Float.abs
  smaller := smaller
  larger := larger
  sqrt := Float.sqrt
  ln := Float.log
  exp := Float.exp
  pow := Float.pow
  totalLE x y := rank x ≤ rank y
  nearest x := ((Binary64.ofFloat? x).map Binary64.nearest).getD 0
  millionths x := ((Binary64.ofFloat? x).map (Binary64.nearestOver 1000000)).getD 0

end EquationTutor.Double
