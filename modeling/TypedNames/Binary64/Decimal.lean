import TypedNames.Binary64.Rounding
import TypedNames.Integer

/-!
# Decimal numerals of double precision numbers

A numeral is an optional sign followed either by one of the words `inf`, `infinity` and `nan` in
any mix of cases, or by digits with at most one point among them, of which at least one is there,
and then perhaps an exponent: the letter `e`, an optional sign and at least one digit. It denotes
the number nearest to its value, an infinity if that is too large.

## Main definitions

* `Binary64.ofDecimal` — the number nearest to a run of digits times a power of ten.
* `Binary64.parse` — the number that a numeral denotes.
* `Binary64.ParseFault` — why a text is no numeral.

## Implementation notes

A numeral may have any number of digits and any exponent. When the first digit that is not zero
stands more than `placeLimit` places to the left or right of the point, the answer is an infinity
or a zero whatever follows, and the power of ten is never computed.
-/

set_option autoImplicit false

namespace TypedNames.Binary64

/-- A number of `placeLimit` digits is beyond all finite numbers, and one whose digits start that
far behind the point is nearer to zero than to any other. -/
def placeLimit : Int := 400

/-- The number nearest to the value of the digits times `10 ^ exponent`. -/
def ofDecimal (negative : Bool) (text : List Char) (exponent : Int) : Binary64 :=
  let significant := text.dropWhile (· == '0')
  let places := significant.length + exponent
  if significant.isEmpty || places < -placeLimit then .finite negative .zero
  else if placeLimit < places then .infinite negative
  else ofQuotient negative (Integer.ofDigits significant * Nat.pow 10 exponent.toNat)
    (Nat.pow 10 (-exponent).toNat)

/-- Why a text is not the numeral of a number. -/
inductive ParseFault
  /-- There is no text. -/
  | empty
  /-- The text has not the form of a numeral. -/
  | invalid
  deriving DecidableEq, Repr

/-- How the fault is told. -/
def ParseFault.message : ParseFault → String
  | .empty => "cannot parse float from empty string"
  | .invalid => "invalid float literal"

/-- The natural number that a text denotes if it is a run of at least one digit. -/
def readPower? (text : List Char) : Option Nat :=
  if text ≠ [] ∧ text.all Char.isDigit then some (Integer.ofDigits text) else none

/-- The exponent that the rest of a numeral after its digits denotes. -/
def readExponent? : List Char → Option Int
  | [] => some 0
  | mark :: rest =>
    if mark = 'e' ∨ mark = 'E' then
      match rest with
      | '-' :: power => (readPower? power).map fun n => -n
      | '+' :: power => (readPower? power).map fun n => n
      | power => (readPower? power).map fun n => n
    else none

/-- The number that digits, a point and an exponent denote. -/
def readDecimal? (negative : Bool) (text : List Char) : Option Binary64 :=
  let whole := text.takeWhile Char.isDigit
  let rest := text.dropWhile Char.isDigit
  let fraction := match rest with
    | '.' :: more => more.takeWhile Char.isDigit
    | _ => []
  let tail := match rest with
    | '.' :: more => more.dropWhile Char.isDigit
    | _ => rest
  if whole.isEmpty && fraction.isEmpty then none
  else (readExponent? tail).map fun exponent =>
    ofDecimal negative (whole ++ fraction) (exponent - fraction.length)

/-- The number that a numeral without its sign denotes. -/
def readUnsigned? (negative : Bool) (text : List Char) : Option Binary64 :=
  let word := String.ofList (text.map Char.toLower)
  if word = "inf" ∨ word = "infinity" then some (.infinite negative)
  else if word = "nan" then some .nan
  else readDecimal? negative text

/-- The number that a numeral denotes. -/
def parse : List Char → Except ParseFault Binary64
  | [] => .error .empty
  | '-' :: rest => (readUnsigned? true rest).elim (.error .invalid) .ok
  | '+' :: rest => (readUnsigned? false rest).elim (.error .invalid) .ok
  | text => (readUnsigned? false text).elim (.error .invalid) .ok

end TypedNames.Binary64
