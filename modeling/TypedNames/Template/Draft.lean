import TypedNames.Template.Basic

/-!
# Drafts

A draft collects the parts of a template one after another. A field can be added as it is, or by
its name and specifier; in the second case nothing is checked before the template is built.

## Main definitions

* `Draft` — the parts collected so far.
* `Draft.addSpec`, `Draft.addField`, `Draft.withLead`, `Draft.withTrail` — one more part.
* `Draft.build` — the template.
-/

set_option autoImplicit false

namespace TypedNames

/-- The parts of a template to be. -/
structure Draft where
  /-- The fields, ready or still to be made from a name and a specifier. -/
  entries : List (Field ⊕ (String × String))
  /-- The text in front of the fields. -/
  lead : String
  /-- The text behind the fields. -/
  trail : String

namespace Draft

/-- The draft without fields and texts. -/
def empty : Draft :=
  ⟨[], "", ""⟩

/-- One more field, given by its name and specifier. -/
def addSpec (d : Draft) (name spec : String) : Draft :=
  { d with entries := d.entries ++ [.inr (name, spec)] }

/-- One more field. -/
def addField (d : Draft) (f : Field) : Draft :=
  { d with entries := d.entries ++ [.inl f] }

/-- The draft with another text in front of the fields. -/
def withLead (d : Draft) (lead : String) : Draft :=
  { d with lead := lead }

/-- The draft with another text behind the fields. -/
def withTrail (d : Draft) (trail : String) : Draft :=
  { d with trail := trail }

/-- The field that an entry of a draft stands for. -/
def makeField : Field ⊕ (String × String) → Except Fault Field
  | .inl f => .ok f
  | .inr (name, spec) => Field.make name spec

/-- The template of a draft. -/
def build (engine : Engine) (d : Draft) : Except Fault Template := do
  let fields ← d.entries.mapM makeField
  Template.make engine fields d.lead d.trail

end Draft

end TypedNames
