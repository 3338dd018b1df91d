import Primer.Numeric.Decimal

/-!
# The shortest decimal

Among the decimals that denote a number, the one with the fewest digits that lies closest to it. A
grid of decimals with `n` digits is tried at the two neighbours of the number, for growing `n`; the
first grid on which a neighbour denotes the number wins, the closer of two, the upper of two that
are equally close.
-/

namespace Primer.Numeric

/-- Whether the value is less than `10 ^ k`. -/
def Dyadic.below (d : Dyadic) (k : Int) : Bool :=
  d.num * Nat.pow 10 (-k).toNat < d.den * Nat.pow 10 k.toNat

/-- The least `k` with the value below `10 ^ k`, for a positive value: the number of its digits
before the point, or minus the number of zeros after it. The decimal logarithm is bounded through
the binary one, which leaves three candidates. -/
def Dyadic.scale (d : Dyadic) : Int :=
  let estimate := (((d.mantissa.log2 : Int) + d.exponent) * 30103).fdiv 100000
  if d.below estimate then estimate
  else if d.below (estimate + 1) then estimate + 1
  else estimate + 2

/-- The greatest decimal with the given exponent that is not above the value. -/
def Dyadic.floorAt (d : Dyadic) (exponent : Int) : Decimal :=
  ⟨(d.num * Nat.pow 10 (-exponent).toNat) / (d.den * Nat.pow 10 exponent.toNat), exponent⟩

/-- The decimal one step further on the same grid. -/
def Decimal.succ (d : Decimal) : Decimal := ⟨d.digits + 1, d.exponent⟩

/-- Whether the value lies at least as close to the upper of two neighbouring decimals. -/
def Dyadic.nearsUpper (d : Dyadic) (lower : Decimal) : Bool :=
  (2 * lower.digits + 1) * Nat.pow 10 lower.exponent.toNat * d.den ≤ 2 * d.num * lower.den

/-- The neighbour of a value on one grid that denotes the number with the given bits. -/
def neighbour? (bits : Nat) (d : Dyadic) (exponent : Int) : Option Decimal :=
  let lower := d.floorAt exponent
  let upper := lower.succ
  match lower.bits == bits, upper.bits == bits with
  | true, true => some (if d.nearsUpper lower then upper else lower)
  | true, false => some lower
  | false, true => some upper
  | false, false => none

/-- The value itself as a decimal, with as many digits as it takes. -/
def Dyadic.exact (d : Dyadic) : Decimal :=
  ⟨d.num * Nat.pow 5 (-d.exponent).toNat, min d.exponent 0⟩

/-- The decimal without the zeros that end its digits; `fuel` bounds their number. -/
def Decimal.strip : Nat → Decimal → Decimal
  | 0, d => d
  | fuel + 1, d =>
    if d.digits % 10 = 0 ∧ d.digits ≠ 0 then strip fuel ⟨d.digits / 10, d.exponent + 1⟩ else d

/-- The digit counts that are tried: seventeen digits tell any two numbers apart. -/
def digitCounts : List Nat :=
  [1, 2, 3, 4, 5, 6, 7, 8, 9, 10, 11, 12, 13, 14, 15, 16, 17]

/-- The shortest decimal that denotes a positive finite magnitude. -/
def shortest (bits : Nat) : Decimal :=
  let value := Dyadic.ofBits bits
  let scale := value.scale
  let found := digitCounts.findSome? fun (n : Nat) => neighbour? bits value (scale - n)
  match found with
  | some d => d.strip 20
  | none => value.exact

end Primer.Numeric
