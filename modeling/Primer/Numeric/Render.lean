import Primer.Numeric.Shortest

/-!
# The text of a number

Both forms write the shortest decimal. The plain form is positional at every size and writes a
whole number without a point. The canonical form is what a program shows: it always has a point,
and leaves the positional layout outside `[1e-3, 1e7)`.
-/

namespace Primer.Numeric

def digitsOf (n : Nat) : List Char := Nat.toDigits 10 n

/-- The decimal digits of an integer, after its sign. -/
def signedDigits (n : Int) : List Char :=
  if n < 0 then '-' :: digitsOf n.natAbs else digitsOf n.natAbs

/-- A decimal with the point in its place: the digits before it, and those after it. -/
def Decimal.positional (d : Decimal) : List Char × List Char :=
  let ds := digitsOf d.digits
  if 0 ≤ d.exponent then (ds ++ List.replicate d.exponent.toNat '0', [])
  else
    let places := (-d.exponent).toNat
    if places < ds.length then (ds.take (ds.length - places), ds.drop (ds.length - places))
    else (['0'], List.replicate (places - ds.length) '0' ++ ds)

/-- The exponent of the leading digit. -/
def Decimal.leading (d : Decimal) : Int := d.exponent + (digitsOf d.digits).length - 1

/-- A whole part and a fraction, the point written only before digits. -/
def joinPlain (parts : List Char × List Char) : List Char :=
  if parts.2.isEmpty then parts.1 else parts.1 ++ '.' :: parts.2

/-- A whole part and a fraction of at least one digit. -/
def joinPointed (parts : List Char × List Char) : List Char :=
  parts.1 ++ '.' :: (if parts.2.isEmpty then ['0'] else parts.2)

/-- The leading digit, the others after the point, and the exponent behind `E`. -/
def Decimal.scientific (d : Decimal) : List Char :=
  let ds := digitsOf d.digits
  joinPointed (ds.take 1, ds.drop 1) ++ 'E' :: signedDigits d.leading

/-- The decimal written for a finite magnitude. -/
def decimalOf (bits : Nat) : Decimal := if bits = 0 then ⟨0, 0⟩ else shortest bits

/-- A text behind the sign of a number. -/
def signed (x : Float) (cs : List Char) : List Char := if isNegative x then '-' :: cs else cs

def plainText (x : Float) : String :=
  let bits := magnitudeBits x
  if infinityBits < bits then "NaN"
  else if bits = infinityBits then String.ofList (signed x "inf".toList)
  else String.ofList (signed x (joinPlain (decimalOf bits).positional))

/-- Whether the canonical text of a number is positional. -/
def isPositional (x : Float) : Bool := x == 0.0 || (1e-3 ≤ x.abs && x.abs < 1e7)

/-- The canonical text of a number. -/
def text (x : Float) : String :=
  let bits := magnitudeBits x
  if infinityBits < bits then "NaN"
  else if bits = infinityBits then String.ofList (signed x "Infinity".toList)
  else
    let d := decimalOf bits
    String.ofList (signed x (if isPositional x then joinPointed d.positional else d.scientific))

end Primer.Numeric
