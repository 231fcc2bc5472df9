import TypedNames.Binary64.Rounding
import TypedNames.Integer

/-!
# Shortest digits

The fewest decimal digits that identify a magnitude: of all decimals that round to it, one with
the least number of digits, of those the nearest to it, and of two equally near the one with the
even last digit.

A decimal of `n` digits for a magnitude of the decade `10ᵏ ≤ v < 10ᵏ⁺¹` is a multiple of
`10ᵏ⁺¹⁻ⁿ`. If any such multiple rounds to the magnitude, one of the two next to it does, so it is
enough to try these for `n = 1, …, 17`; seventeen digits are always enough.

## Main definitions

* `Decimal` — digits and a power of ten.
* `Binary64.Magnitude.decade` — the power of ten of the first digit.
* `Binary64.Magnitude.shortest` — the shortest digits.
-/

set_option autoImplicit false

namespace TypedNames

/-- The decimal number `significand * 10 ^ exponent`. -/
structure Decimal where
  /-- The digits, read as a number. -/
  significand : Nat
  /-- The power of ten of the last digit. -/
  exponent : Int
  deriving DecidableEq, Repr

namespace Decimal

/-- The numerator of the decimal as a quotient. -/
def num (d : Decimal) : Nat :=
  d.significand * Nat.pow 10 d.exponent.toNat

/-- The denominator of the decimal as a quotient. -/
def den (d : Decimal) : Nat :=
  Nat.pow 10 (-d.exponent).toNat

/-- The digits of the decimal. -/
def digits (d : Decimal) : List Char :=
  Integer.digits d.significand

/-- The power of ten of the first digit. -/
def decade (d : Decimal) : Int :=
  d.exponent + d.digits.length - 1

/-- The same number, written with the digit one alone if its digits are one and `count` zeros. -/
def carry (d : Decimal) (count : Nat) : Decimal :=
  if d.significand = Nat.pow 10 count then ⟨1, d.exponent + count⟩ else d

end Decimal

namespace Binary64.Magnitude

/-- The power of ten of the first digit of a positive magnitude. -/
def decade (m : Magnitude) : Int :=
  if unitsPerOne ≤ m.units then (Integer.digits (m.units / unitsPerOne)).length - 1
  else -(Integer.digits ((unitsPerOne - 1) / m.units)).length

/-- Whether a decimal rounds to the magnitude. -/
def isNearestTo (m : Magnitude) (d : Decimal) : Bool :=
  nearestRank d.num d.den == m.rank

/-- The distance of a decimal from the magnitude, in units, times the denominator of the decimal. -/
def distance (m : Magnitude) (d : Decimal) : Nat :=
  let here := m.units * d.den
  let there := unitsPerOne * d.num
  (here - there) + (there - here)

/-- The decimal of at most `count` digits that identifies the magnitude and is nearest to it. -/
def atDigits? (m : Magnitude) (count : Nat) : Option Decimal :=
  let exponent := m.decade + 1 - count
  let unit : Decimal := ⟨1, exponent⟩
  let low : Decimal := ⟨m.units * unit.den / (unitsPerOne * unit.num), exponent⟩
  let high : Decimal := ⟨low.significand + 1, exponent⟩
  if m.isNearestTo low then
    if m.isNearestTo high then
      if m.distance low < m.distance high then some low
      else if m.distance high < m.distance low then some (high.carry count)
      else if low.significand % 2 = 0 then some low else some (high.carry count)
    else some low
  else if m.isNearestTo high then some (high.carry count)
  else none

/-- The shortest decimal that identifies a positive magnitude. -/
def shortest (m : Magnitude) : Decimal :=
  ((List.range 17).findSome? fun n => m.atDigits? (n + 1)).getD ⟨0, 0⟩

end Binary64.Magnitude

end TypedNames
