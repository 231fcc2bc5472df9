import TypedNames.Fault

/-!
# Fields

A field is a name with a format. It writes values of its kind as tokens and reads tokens back.
A field of fixed-point numbers also takes the integers that a double precision number can equal.

## Main definitions

* `Field` — a name, a specifier and the format that it names.
* `Field.make` — the field of a name and a specifier.
* `Field.write`, `Field.read` — values as tokens and back.

## Main results

* `Field.make_of_parse`, `Field.make_of_parse_eq_error` — a field is made exactly of a specifier.
-/

set_option autoImplicit false

namespace TypedNames

/-- A named field with its format. -/
structure Field where
  /-- The name of the field. -/
  name : String
  /-- The specifier as it was given. -/
  spec : String
  /-- The format that the specifier names. -/
  format : Format
  name_ne : name ≠ ""
  parse_spec : Format.parse spec = .ok format

namespace Field

/-- The field with the given name and specifier. -/
def make (name spec : String) : Except Fault Field :=
  if hn : name = "" then .error .emptyName
  else match hs : Format.parse spec with
    | .ok format => .ok ⟨name, spec, format, hn, hs⟩
    | .error cause => .error (.badSpecifier spec cause)

variable {name spec : String}

/-- A specifier makes a field of the format that it names. -/
theorem make_of_parse {format : Format} (ne : name ≠ "") (h : Format.parse spec = .ok format) :
    make name spec = .ok ⟨name, spec, format, ne, h⟩ := by
  rw [make, dif_neg ne]
  split
  · next format' h' =>
    obtain rfl := Except.ok.inj (h.symm.trans h')
    rfl
  · next cause h' => cases h.symm.trans h'

/-- A text that is no specifier is told with the cause. -/
theorem make_of_parse_eq_error {cause : SpecFault} (ne : name ≠ "")
    (h : Format.parse spec = .error cause) :
    make name spec = .error (.badSpecifier spec cause) := by
  rw [make, dif_neg ne]
  split
  · next format h' => cases h.symm.trans h'
  · next cause' h' =>
    obtain rfl := Except.error.inj (h.symm.trans h')
    rfl

/-- The pattern of the tokens of a field. -/
def pattern (f : Field) : Pattern :=
  f.format.pattern

/-- The token of a double precision number, if it is finite. -/
def writeFixed (f : Field) (intDigits fracDigits : Nat) : Binary64 → Except Fault (List Char)
  | .finite negative m => .ok (m.fixedText negative intDigits fracDigits)
  | x => .error (.unwritable f.name (.notFinite x))

/-- The token of a value. -/
def write (f : Field) (value : Value) : Except Fault (List Char) :=
  match f.format, value with
  | .fixed i d, .float x => f.writeFixed i d x
  | .fixed i d, .int n =>
    match Binary64.ofInt64? n with
    | some x => f.writeFixed i d x
    | none => .error (.unwritable f.name (.inexact n))
  | .bool, .bool b => .ok (Format.boolToken b)
  | .int width, .int n => .ok (Format.intToken width n)
  | .str padding, .str s => .ok (Format.strToken padding s.toList)
  | format, value => .error (.kindMismatch f.name format.kind value.kind)

/-- The value that a token denotes. -/
def read (f : Field) (token : List Char) : Except Fault Value :=
  (f.format.read token).mapError fun cause => .unreadable f.name (String.ofList token) cause

end Field

end TypedNames
