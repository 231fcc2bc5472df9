import TypedNames.Field
import TypedNames.Pattern.Composite

/-!
# Templates

A template is the form of a family of names: a leading text, a row of fields and a trailing text.
A name of the family shows each field as its name and its token, with an underscore after the
name of a field and between fields.

## Main definitions

* `Template` — leading text, fields with distinct names, trailing text.
* `Template.namePattern`, `Template.wholePattern` — the pattern of the names, and the one that has
  to be the whole text.
* `Template.make` — the template of a row of fields, for an engine.
* `Template.spell` — the name with given tokens.
* `Template.pattern`, `Template.matcher` — the notation of the pattern, and the pattern that names
  are matched by.

## Main results

* `firstRepeat?_eq_none_iff` — there is no repeated name exactly when the names are distinct.
-/

set_option autoImplicit false

namespace TypedNames

/-- The first of the names that is in `seen` or equal to one before it. -/
def firstRepeat? (seen : List String) : List String → Option String
  | [] => none
  | name :: rest => if name ∈ seen then some name else firstRepeat? (name :: seen) rest

/-- There is no repeated name exactly when the names are distinct and none has been seen. -/
theorem firstRepeat?_eq_none_iff {seen names : List String} :
    firstRepeat? seen names = none ↔ names.Nodup ∧ ∀ name ∈ names, name ∉ seen := by
  induction names generalizing seen with
  | nil => simp [firstRepeat?]
  | cons name rest ih =>
    rw [firstRepeat?]
    by_cases h : name ∈ seen
    · simp [h]
    · rw [if_neg h, ih, List.nodup_cons]
      simp only [List.mem_cons, not_or, forall_eq_or_imp]
      constructor
      · rintro ⟨nodup, fresh⟩
        exact ⟨⟨fun mem => (fresh name mem).1 rfl, nodup⟩, h, fun a ha => (fresh a ha).2⟩
      · rintro ⟨⟨new, nodup⟩, _, fresh⟩
        exact ⟨nodup, fun a ha => ⟨fun e => new (e ▸ ha), fresh a ha⟩⟩

namespace Template

/-- A field of a name: the name of the field, an underscore and the token. -/
def segment (f : Field) (token : List Char) : List Char :=
  f.name.toList ++ '_' :: token

/-- The pattern of a row of fields, the first one behind the given delimiter. Each token is
captured. -/
def rowPattern : List Char → List Field → Composite
  | _, [] => .empty
  | delimiter, f :: rest =>
    .seq (.literal (delimiter ++ segment f [])) (.seq (.capture f.pattern) (rowPattern ['_'] rest))

/-- The pattern of the names with the given fields and texts. -/
def namePattern (fields : List Field) (lead trail : String) : Composite :=
  .seq (.literal lead.toList) (.seq (rowPattern [] fields) (.literal trail.toList))

/-- The pattern of the names with nothing in front of them and nothing behind them. -/
def wholePattern (fields : List Field) (lead trail : String) : Composite :=
  .seq .start (.seq (.group (namePattern fields lead trail)) .stop)

end Template

/-- The form of a family of names. -/
structure Template where
  /-- The text in front of the fields. -/
  lead : String
  /-- The fields in order. -/
  fields : List Field
  /-- The text behind the fields. -/
  trail : String
  nodup : (fields.map Field.name).Nodup

namespace Template

/-- The template of a row of fields, if their names are distinct and the engine compiles their
pattern. -/
def make (engine : Engine) (fields : List Field) (lead trail : String) : Except Fault Template :=
  match h : firstRepeat? [] (fields.map Field.name) with
  | some name => .error (.duplicateField name)
  | none =>
    match engine.refusal? (wholePattern fields lead trail).text with
    | some cause => .error (.badPattern cause)
    | none => .ok ⟨lead, fields, trail, (firstRepeat?_eq_none_iff.1 h).1⟩

/-- The template of a row of names with specifiers. -/
def ofSpecs (engine : Engine) (specs : List (String × String)) (lead trail : String) :
    Except Fault Template := do
  let fields ← specs.mapM fun entry => Field.make entry.1 entry.2
  make engine fields lead trail

/-- The names of the fields in order. -/
def names (t : Template) : List String :=
  t.fields.map Field.name

/-- The field of the given name, if there is one. -/
def field? (t : Template) (name : String) : Option Field :=
  t.fields.find? fun f => f.name == name

/-- The name with the given tokens. -/
def spell (t : Template) (tokens : List (List Char)) : List Char :=
  t.lead.toList ++ ['_'].intercalate (List.zipWith segment t.fields tokens) ++ t.trail.toList

/-- The notation of the pattern of the names. -/
def pattern (t : Template) : String :=
  (namePattern t.fields t.lead t.trail).text

/-- The pattern by which names are matched. -/
def matcher (t : Template) : Composite :=
  wholePattern t.fields t.lead t.trail

end Template

end TypedNames
