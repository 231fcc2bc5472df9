import TypedNames.Format.Spec
import TypedNames.Format.Token
import TypedNames.Pattern.Engine

/-!
# Faults

What can be wrong with a schema, with the values for a name, or with a name to be read. A fault
holds the cause; its wording is in one place.

## Main definitions

* `WriteFault` — why a value of the right kind cannot be written.
* `Fault` — the causes.
* `Fault.message` — how a fault is told.
* `Fault.causes` — the fault and what lies behind it, for a report.
-/

set_option autoImplicit false

namespace TypedNames

/-- Why a value cannot be written although its kind is right. -/
inductive WriteFault
  /-- No double precision number is equal to the integer. -/
  | inexact (i : Int64)
  /-- The number is not finite. -/
  | notFinite (x : Binary64)
  deriving DecidableEq

/-- How the fault is told. -/
def WriteFault.message : WriteFault → String
  | .inexact i => String.ofList (Integer.text i) ++ " is not exactly representable as a float"
  | .notFinite x => x.specialName ++ " has no fixed-point representation"

/-- What is wrong with a schema, with values or with a name. -/
inductive Fault
  /-- A text is no specifier. -/
  | badSpecifier (spec : String) (cause : SpecFault)
  /-- A field has the empty name. -/
  | emptyName
  /-- Two fields have one name. -/
  | duplicateField (name : String)
  /-- Fields of the template have no value. -/
  | missingFields (names : List String)
  /-- Values are given for fields that the template does not have. -/
  | unknownFields (names : List String)
  /-- A value is of another kind than its field. -/
  | kindMismatch (field : String) (expected found : Kind)
  /-- A value cannot be written in its field. -/
  | unwritable (field : String) (cause : WriteFault)
  /-- A name does not match the pattern of the template. -/
  | noMatch (name pattern : String)
  /-- A token of a name denotes no value. -/
  | unreadable (field token : String) (cause : ReadFault)
  /-- The engine does not compile the pattern of the template. -/
  | badPattern (cause : Engine.Refusal)
  deriving DecidableEq

namespace Fault

/-- How a fault is told. -/
def message : Fault → String
  | .badSpecifier spec cause => "Invalid format '" ++ spec ++ "': " ++ cause.message
  | .emptyName => "Invalid field name: field names must not be empty"
  | .duplicateField name => "Duplicate field: " ++ name
  | .missingFields names => "Missing fields: " ++ ", ".intercalate names
  | .unknownFields names => "Unknown fields: " ++ ", ".intercalate names
  | .kindMismatch field expected found =>
    "Type mismatch for field '" ++ field ++ "': expected " ++ expected.name ++ ", found " ++
      found.name
  | .unwritable field cause => "Cannot encode field '" ++ field ++ "': " ++ cause.message
  | .noMatch name pattern =>
    "Filename '" ++ name ++ "' does not match pattern '" ++ pattern ++ "'"
  | .unreadable field token cause =>
    "Cannot decode field '" ++ field ++ "': '" ++ token ++ "' is not a valid " ++
      cause.kind.name ++ ": " ++ cause.message
  | .badPattern cause => "Pattern compile error: " ++ cause.message

/-- The messages of a fault and of what lies behind it, outermost first. -/
def causes (fault : Fault) : List String :=
  match fault with
  | .badPattern cause => [fault.message, cause.message]
  | _ => [fault.message]

end Fault

end TypedNames
