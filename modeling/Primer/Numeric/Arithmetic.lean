import Primer.Numeric.Binary64

/-!
# Operations on numbers

What the machine's arithmetic leaves open: the remainder that takes the sign of the dividend, the
test for whole numbers and the tolerant equality.
-/

namespace Primer.Numeric

/-- Whether the number is neither infinite nor NaN. -/
def isFinite (x : Float) : Bool := magnitudeBits x < infinityBits

/-- The magnitude of the remainder of two finite magnitudes, the second not zero. It is smaller than
the divisor, so that it is a number and no rounding takes place. -/
def Dyadic.remainder (a b : Dyadic) : Dyadic :=
  let place := min a.exponent b.exponent
  let left := a.mantissa * Nat.pow 2 (a.exponent - place).toNat
  let right := b.mantissa * Nat.pow 2 (b.exponent - place).toNat
  ⟨left % right, place⟩

/-- The remainder of a division that rounds toward zero; it has the sign of the dividend. -/
def remainder (x y : Float) : Float :=
  if !isFinite x || y.isNaN || y == 0.0 then 0.0 / 0.0
  else if !isFinite y then x
  else
    let r := (Dyadic.ofFloat x).remainder (Dyadic.ofFloat y)
    nearest (isNegative x) r.num r.den

/-- Whether the fraction after the point is less than `2 ^ -52`, the distance of one to the next
number. -/
def isWhole (x : Float) : Bool :=
  let d := Dyadic.ofFloat x
  isFinite x && (d.num % d.den) * Nat.pow 2 52 < d.den

/-- The natural before the point; zero for a negative number. -/
def wholePart (x : Float) : Nat :=
  let d := Dyadic.ofFloat x
  if isNegative x then 0 else d.num / d.den

/-- How far apart two equal numbers may lie. -/
def tolerance : Float := 1e-6

/-- Equality of numbers up to the tolerance. -/
def near (x y : Float) : Bool := (x - y).abs < tolerance

/-- The value of an ASCII digit as a number. -/
def ofDigit? (c : Char) : Option Float :=
  if c.isDigit then some (Float.ofNat (c.toNat - '0'.toNat)) else none

end Primer.Numeric
