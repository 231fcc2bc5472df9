import TypedNames.Binary64.Rounding
import TypedNames.Integer

/-!
# Fixed-point text

A finite number written with a fixed number of decimal places: its exact value rounded to that
many places, ties to even, with zeros in front of the integer part up to a least number of digits.
The sign is written only in front of a number that shows some digit other than zero.

## Main definitions

* `Binary64.Magnitude.toPlaces` — the magnitude in units of the last place.
* `Binary64.Magnitude.plainText` — the text of a magnitude without padding.
* `Binary64.Magnitude.fixedText` — the text of a number with sign and padding.
-/

set_option autoImplicit false

namespace TypedNames.Binary64.Magnitude

/-- The magnitude in units of the last of `places` decimal places, rounded. -/
def toPlaces (m : Magnitude) (places : Nat) : Nat :=
  roundQuotient (m.units * Nat.pow 10 places) unitsPerOne

/-- The number `scaled / 10 ^ places` with at least `least` digits in front of the point. -/
def pointText (scaled least places : Nat) : List Char :=
  (Integer.digits (scaled / Nat.pow 10 places)).leftpad least '0' ++
    '.' :: (Integer.digits (scaled % Nat.pow 10 places)).leftpad places '0'

/-- The magnitude to `places` decimal places. Without places there is no point. -/
def plainText (m : Magnitude) (places : Nat) : List Char :=
  if places = 0 then Integer.digits (m.toPlaces 0) else pointText (m.toPlaces places) 0 places

/-- A digit other than zero. -/
def isNonzeroDigit (c : Char) : Bool :=
  '1' ≤ c && c ≤ '9'

/-- The number with the given sign and magnitude to `places` decimal places. Zeros are put in front
of it until the point stands behind `least` digits, and a minus sign in front of a number below zero
that shows a digit other than zero. -/
def fixedText (negative : Bool) (m : Magnitude) (least places : Nat) : List Char :=
  let body := m.plainText places
  let point := body.findIdx (· == '.')
  let minus := (negative && m.rank != 0) && body.any isNonzeroDigit
  Integer.sign minus ++ (List.replicate (least - point) '0' ++ body)

end TypedNames.Binary64.Magnitude
