import TypedNames.Record
import TypedNames.Template.Basic

/-!
# Names

A template writes the name of a record and reads the record of a name.

For writing, the record has to give a value to each field and to nothing else. For reading, the
name has to split into the fixed texts of the template and one token for each field that matches
the pattern of the field. Where a name splits in several ways, the first field takes as much as it
can, then the second, and so on.

## Main definitions

* `Template.write` — the name of a record.
* `Template.tokens?` — the tokens of a name.
* `Template.matchesName` — whether a name is one of the template.
* `Template.read` — the record of a name.
-/

set_option autoImplicit false

namespace TypedNames.Template

/-- The name that a record has under the template. -/
def write (t : Template) (r : Record) : Except Fault String :=
  let missing := t.names.filter fun name => !r.contains name
  let unknown := r.names.filter fun name => (t.field? name).isNone
  if missing ≠ [] then .error (.missingFields missing)
  else if unknown ≠ [] then .error (.unknownFields unknown)
  else do
    let tokens ← t.fields.mapM fun f =>
      match r.get? f.name with
      | some value => f.write value
      | none => .error (.missingFields [f.name])
    return String.ofList (t.spell tokens)

/-- The tokens of a name in the preferred split, if it is a name of the template. -/
def tokens? (t : Template) (text : List Char) : Option (List (List Char)) :=
  t.matcher.search text

/-- Whether a text is a name of the template. -/
def matchesName (t : Template) (name : String) : Bool :=
  (t.tokens? name.toList).isSome

/-- The record that a name of the template stands for. -/
def read (t : Template) (name : String) : Except Fault Record :=
  match t.tokens? name.toList with
  | none => .error (.noMatch name t.pattern)
  | some tokens => do
    let entries ← (t.fields.zip tokens).mapM fun pair => do
      let value ← pair.1.read pair.2
      return (pair.1.name, value)
    return Record.ofList entries

end TypedNames.Template
