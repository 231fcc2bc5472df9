import TypedNames.Binary64.Decimal
import TypedNames.Binary64.Fixed
import TypedNames.Format.Basic
import TypedNames.Pattern.Basic

/-!
# Tokens

A token is the text of one value in a name. Each format has a way to write a value of its kind as
a token, a pattern for the tokens that it accepts, and a way to read a token back.

A token never gets shorter than its value: widths are least widths, and what does not fit grows.
The sign of an integer takes one of its places, the sign of a fixed-point number none. A padded
text is read back without any of its zeros, whether they were padding or not.

## Main definitions

* `Format.pattern` — the tokens that a format accepts.
* `Format.intToken`, `Format.strToken`, `Format.boolToken` — writing; fixed-point numbers are
  written by `Binary64.Magnitude.fixedText`.
* `Format.read` — reading.
* `ReadFault` — why a token denotes no value.
-/

set_option autoImplicit false

namespace TypedNames

/-- Why a token does not denote a value. -/
inductive ReadFault
  /-- It is no integer. -/
  | int (fault : Integer.Fault)
  /-- It is no number. -/
  | float (fault : Binary64.ParseFault)
  deriving DecidableEq, Repr

/-- How the fault is told. -/
def ReadFault.message : ReadFault → String
  | .int fault => fault.message
  | .float fault => fault.message

/-- The kind that the token should have had. -/
def ReadFault.kind : ReadFault → Kind
  | .int _ => .int
  | .float _ => .float

namespace Format

/-- The pattern of the tokens that the format accepts. -/
def pattern : Format → Pattern
  | .fixed i f =>
    .optional .minus ++ (.atLeast .digit i ++ (.literal ['.'] ++ .exactly .digit f))
  | .bool => .alt (.literal ['T', 'r', 'u', 'e']) (.literal ['F', 'a', 'l', 's', 'e'])
  | .int none => .optional .minus ++ .oneOrMore .digit
  | .int (some n) =>
    .group (.alt (.one .minus ++ .atLeast .digit (max (n - 1) 1)) (.atLeast .digit n))
  | .str none => .oneOrMore .word
  | .str (some (n, _)) => .exactly .word n

/-- The token of a truth value. -/
def boolToken (b : Bool) : List Char :=
  if b then ['T', 'r', 'u', 'e'] else ['F', 'a', 'l', 's', 'e']

/-- The token of an integer: zeros between sign and digits fill the width. -/
def intToken (width : Option Nat) (i : Int64) : List Char :=
  let sign := Integer.sign (i.toInt < 0)
  sign ++ (Integer.digits i.toInt.natAbs).leftpad (width.getD 0 - sign.length) '0'

/-- The token of a text: zeros at one end fill the width. -/
def strToken (padding : Option (Nat × Side)) (text : List Char) : List Char :=
  match padding with
  | none => text
  | some (width, .front) => text.leftpad width '0'
  | some (width, .back) => text.rightpad width '0'

/-- The value that a token denotes. -/
def read (format : Format) (token : List Char) : Except ReadFault Value :=
  match format with
  | .fixed _ _ => (Binary64.parse token).mapError .float |>.map .float
  | .bool => .ok (.bool (token = ['T', 'r', 'u', 'e']))
  | .int _ => (Integer.parse token).mapError .int |>.map .int
  | .str none => .ok (.str (String.ofList token))
  | .str (some _) => .ok (.str (String.ofList (token.filter (· != '0'))))

end Format

end TypedNames
