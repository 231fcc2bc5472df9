import TypedNames.Template.Basic

/-!
# Schemas

A schema describes a template by texts: a leading and a trailing text, and names with specifiers.
Whether these make sense shows when the template is built.

## Main definitions

* `Schema` — the description of a template.
* `Schema.build`, `Template.ofSchema` — the template that a schema describes.
-/

set_option autoImplicit false

namespace TypedNames

/-- The description of a template. -/
structure Schema where
  /-- The text in front of the fields. -/
  lead : String
  /-- The text behind the fields. -/
  trail : String
  /-- The names of the fields with their specifiers, in order. -/
  specs : List (String × String)
  deriving DecidableEq, Repr

/-- The template that a schema describes. -/
def Schema.build (engine : Engine) (s : Schema) : Except Fault Template :=
  Template.ofSpecs engine s.specs s.lead s.trail

/-- The template of a schema. -/
def Template.ofSchema (engine : Engine) (s : Schema) : Except Fault Template :=
  s.build engine

end TypedNames
