import TypedNames.Binary64.Basic

/-!
# Values

A value is one typed parameter of a name: a boolean, an integer of 64 bits, a double precision
number or a text.

## Main definitions

* `Kind` — the four kinds of values, with the names that messages give them.
* `Value` — a value.
* `Value.equal` — equality as a user sees it: numbers are compared as numbers within one kind.
-/

set_option autoImplicit false

namespace TypedNames

/-- The kind of a value. -/
inductive Kind
  | bool
  | int
  | float
  | str
  deriving DecidableEq, Repr

/-- The name of a kind in messages. -/
def Kind.name : Kind → String
  | .bool => "bool"
  | .int => "int"
  | .float => "float"
  | .str => "str"

/-- A typed parameter. -/
inductive Value
  | bool (b : Bool)
  | int (i : Int64)
  | float (x : Binary64)
  | str (s : String)
  deriving DecidableEq

namespace Value

/-- The kind of a value. -/
def kind : Value → Kind
  | .bool _ => .bool
  | .int _ => .int
  | .float _ => .float
  | .str _ => .str

/-- The boolean that the value is, if it is one. -/
def bool? : Value → Option Bool
  | .bool b => some b
  | _ => none

/-- The integer that the value is, if it is one. -/
def int? : Value → Option Int64
  | .int i => some i
  | _ => none

/-- The double precision number that the value is, if it is one. -/
def float? : Value → Option Binary64
  | .float x => some x
  | _ => none

/-- The text that the value is, if it is one. -/
def str? : Value → Option String
  | .str s => some s
  | _ => none

/-- Whether two values are of one kind and equal: NaN differs from itself, and the two zeros are
equal. -/
def equal : Value → Value → Bool
  | .bool a, .bool b => a == b
  | .int a, .int b => a == b
  | .float a, .float b => a.equal b
  | .str a, .str b => a == b
  | _, _ => false

/-- Whether the value is something else than a number that is not finite. -/
def isFinite : Value → Bool
  | .float x => x.isFinite
  | _ => true

end Value

end TypedNames
