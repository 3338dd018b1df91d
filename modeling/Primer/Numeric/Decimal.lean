import Primer.Numeric.Binary64

/-!
# Decimals and their reading

A decimal denotes the nearest number. The written form is an optional sign, then digits with an
optional point (a digit on at least one side of it) and an optional exponent, or one of the words
`inf`, `infinity` and `nan` in any case.
-/

namespace Primer.Numeric

/-- The value `digits * 10 ^ exponent`. -/
structure Decimal where
  digits : Nat
  exponent : Int
deriving DecidableEq

namespace Decimal

/-- The numerator of the value as a fraction of naturals. -/
def num (d : Decimal) : Nat := d.digits * Nat.pow 10 d.exponent.toNat

/-- The denominator of the value as a fraction of naturals. -/
def den (d : Decimal) : Nat := Nat.pow 10 (-d.exponent).toNat

/-- The magnitude bits of the number that the decimal denotes. -/
def bits (d : Decimal) : Nat := nearestBits d.num d.den

end Decimal

/-! ## Digits -/

/-- The value of a row of digits, continuing a number to its left. -/
def digitsFrom (left : Nat) (cs : List Char) : Nat :=
  cs.foldl (fun n c => 10 * n + (c.toNat - '0'.toNat)) left

def digitsValue (cs : List Char) : Nat := digitsFrom 0 cs

/-- The leading digits of a text, and the rest. -/
def spanDigits (cs : List Char) : List Char × List Char :=
  (cs.takeWhile Char.isDigit, cs.dropWhile Char.isDigit)

/-! ## Reading -/

/-- A sign in front of a text, and the rest. -/
def splitSign : List Char → Bool × List Char
  | '-' :: rest => (true, rest)
  | '+' :: rest => (false, rest)
  | cs => (false, cs)

/-- The exponent that ends a decimal: nothing, or a mark, an optional sign and digits. -/
def exponentPart? : List Char → Option Int
  | [] => some 0
  | mark :: rest =>
    if mark == 'e' || mark == 'E' then
      let (negative, digits) := splitSign rest
      if digits.isEmpty || !digits.all Char.isDigit then none
      else if negative then some (-(digitsValue digits : Int)) else some (digitsValue digits)
    else none

/-- The digits after the point, if there is one, and the rest. -/
def fractionPart : List Char → List Char × List Char
  | '.' :: rest => spanDigits rest
  | cs => ([], cs)

/-- An exponent so large or so small that `count` digits before it denote infinity or zero can be
replaced by a bound. -/
def boundExponent (count : Nat) (e : Int) : Int := max (min e 400) (-400 - count)

def decimal? (cs : List Char) : Option Decimal :=
  let (whole, afterWhole) := spanDigits cs
  let (fraction, rest) := fractionPart afterWhole
  let digits := whole ++ fraction
  if digits.isEmpty then none
  else (exponentPart? rest).map fun e =>
    ⟨digitsValue digits, boundExponent digits.length (e - fraction.length)⟩

/-- The magnitude bits of NaN. -/
def nanBits : Nat := 0x7FF8000000000000

/-- The magnitude that an unsigned text denotes. -/
def magnitude? (cs : List Char) : Option Nat :=
  let word := String.ofList (cs.map Char.toLower)
  if word == "inf" || word == "infinity" then some infinityBits
  else if word == "nan" then some nanBits
  else (decimal? cs).map Decimal.bits

/-- The number that a text denotes. -/
def read? (s : String) : Option Float :=
  let (negative, rest) := splitSign s.toList
  (magnitude? rest).map (ofMagnitude negative)

end Primer.Numeric
