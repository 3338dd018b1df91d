/-!
# Numbers as bits

A number is a binary64 value. Its magnitude is read off its bits as `mantissa * 2 ^ exponent`, and
the nearest magnitude to a quotient of naturals is written back as bits. All arithmetic here is
exact, on naturals.
-/

namespace Primer.Numeric

/-- The magnitude bits of infinity. Every finite magnitude has smaller bits. -/
def infinityBits : Nat := 0x7FF0000000000000

/-- The weight of the sign bit. -/
def signWeight : Nat := 0x8000000000000000

/-- The bits of a number without its sign. -/
def magnitudeBits (x : Float) : Nat := x.toBits.toNat % signWeight

def isNegative (x : Float) : Bool := signWeight ≤ x.toBits.toNat

/-- The number with the given sign and magnitude bits. -/
def ofMagnitude (negative : Bool) (bits : Nat) : Float :=
  Float.ofBits (UInt64.ofNat (if negative then signWeight + bits else bits))

/-! ## Magnitudes as dyadic fractions -/

/-- The value `mantissa * 2 ^ exponent`. -/
structure Dyadic where
  mantissa : Nat
  exponent : Int
deriving DecidableEq

/-- The value of finite magnitude bits. -/
def Dyadic.ofBits (bits : Nat) : Dyadic :=
  let biased : Nat := bits / Nat.pow 2 52
  if biased = 0 then ⟨bits, -1074⟩ else ⟨Nat.pow 2 52 + bits % Nat.pow 2 52, (biased : Int) - 1075⟩

def Dyadic.ofFloat (x : Float) : Dyadic := .ofBits (magnitudeBits x)

/-- The numerator of the value as a fraction of naturals. -/
def Dyadic.num (d : Dyadic) : Nat := d.mantissa * Nat.pow 2 d.exponent.toNat

/-- The denominator of the value as a fraction of naturals. -/
def Dyadic.den (d : Dyadic) : Nat := Nat.pow 2 (-d.exponent).toNat

/-! ## Rounding -/

/-- A quotient rounded to the nearest natural, a half to the even one. -/
def roundHalfEven (num den : Nat) : Nat :=
  let quotient := num / den
  match compare (2 * (num % den)) den with
  | .lt => quotient
  | .gt => quotient + 1
  | .eq => quotient + quotient % 2

/-- Whether the quotient is at least `2 ^ e`. -/
def reaches (num den : Nat) (e : Int) : Bool :=
  den * Nat.pow 2 e.toNat ≤ num * Nat.pow 2 (-e).toNat

/-- The binary exponent of a positive quotient: the greatest power of two that it reaches. -/
def binaryExponent (num den : Nat) : Int :=
  let guess : Int := (num.log2 : Int) - den.log2
  if reaches num den guess then guess else guess - 1

/-- The exponent of the last place of the nearest magnitude. -/
def lastPlace (num den : Nat) : Int := max (binaryExponent num den - 52) (-1074)

/-- The bits of the magnitude nearest to a quotient, a tie going to the even mantissa and what is
too large to infinity. -/
def nearestBits (num den : Nat) : Nat :=
  if num = 0 then 0
  else
    let place := lastPlace num den
    let mantissa := roundHalfEven (num * Nat.pow 2 (-place).toNat) (den * Nat.pow 2 place.toNat)
    min ((place + 1074).toNat * Nat.pow 2 52 + mantissa) infinityBits

/-- The number nearest to a signed quotient of naturals. -/
def nearest (negative : Bool) (num den : Nat) : Float := ofMagnitude negative (nearestBits num den)

end Primer.Numeric
