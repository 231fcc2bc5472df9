import TypedNames.Binary64.Shortest

/-!
# Double precision numbers in JSON

A finite number is written with its shortest digits. If the power of ten of the first digit is
between -5 and 15 the digits stand at their places, with a fraction even if it is zero; otherwise
there is a point behind the first digit, if others follow, and an exponent with its sign. A zero
keeps its sign. JSON has no spelling for the other numbers, which are written as `null`.

## Main definitions

* `Json.floatText` — the text of a number.
-/

set_option autoImplicit false

namespace TypedNames.Json

/-- The least power of ten of a first digit that is written at its place. -/
def leastPlainDecade : Int := -5

/-- The largest power of ten of a first digit that is written at its place. -/
def mostPlainDecade : Int := 15

/-- Digits at their places, the first of them at the place of `10 ^ decade`. -/
def plainText (digits : List Char) (decade : Int) : List Char :=
  if decade < 0 then
    ['0', '.'] ++ List.replicate (decade.natAbs - 1) '0' ++ digits
  else
    let whole := decade.toNat + 1
    if digits.length ≤ whole then digits.rightpad whole '0' ++ ['.', '0']
    else digits.take whole ++ '.' :: digits.drop whole

/-- Digits with an exponent. -/
def exponentText (digits : List Char) (decade : Int) : List Char :=
  let fraction := match digits.drop 1 with
    | [] => []
    | rest => '.' :: rest
  digits.take 1 ++ fraction ++ ['e', if decade < 0 then '-' else '+'] ++
    Integer.digits decade.natAbs

/-- The text of a decimal number. -/
def decimalText (d : Decimal) : List Char :=
  if leastPlainDecade ≤ d.decade ∧ d.decade ≤ mostPlainDecade then plainText d.digits d.decade
  else exponentText d.digits d.decade

/-- The text of a magnitude. -/
def magnitudeText (m : Binary64.Magnitude) : List Char :=
  if m = .zero then ['0', '.', '0'] else decimalText m.shortest

/-- The text of a number. -/
def floatText : Binary64 → List Char
  | .finite negative m => Integer.sign negative ++ magnitudeText m
  | _ => ['n', 'u', 'l', 'l']

end TypedNames.Json
