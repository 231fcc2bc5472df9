import TypedNames.Value

/-!
# Formats

A format says how the value of one field is written in a name. Its short form is the canonical
specifier.

## Main definitions

* `Format` — fixed-point numbers, booleans, integers and texts, with their widths.
* `Format.kind` — the kind of values that a format writes.
* `Format.specifier` — the canonical specifier.
-/

set_option autoImplicit false

namespace TypedNames

/-- The end of a text at which padding goes. -/
inductive Side
  | front
  | back
  deriving DecidableEq, Repr

/-- How the value of a field is written. -/
inductive Format
  /-- A number with a least number of digits in front of the point and a fixed number behind. -/
  | fixed (intDigits fracDigits : Nat)
  /-- A truth value. -/
  | bool
  /-- An integer, padded with zeros if a width is given. -/
  | int (width : Option Nat)
  /-- A text, padded with zeros at one end if a width is given. -/
  | str (padding : Option (Nat × Side))
  deriving DecidableEq, Repr

namespace Format

/-- The kind of values that the format writes. -/
def kind : Format → Kind
  | .fixed _ _ => .float
  | .bool => .bool
  | .int _ => .int
  | .str _ => .str

/-- The canonical specifier of the format. -/
def specifier : Format → String
  | .fixed i f => "fp" ++ toString i ++ "." ++ toString f
  | .bool => "bool"
  | .int none => "int"
  | .int (some n) => toString n ++ "int"
  | .str none => "str"
  | .str (some (n, .front)) => toString n ++ "str"
  | .str (some (n, .back)) => "str" ++ toString n

end Format

end TypedNames
