import TypedNames.Json.Record
import TypedNames.Schema.Basic

/-!
# Schemas in JSON

A schema is written as an object with the keys `prefix`, `postfix` and `fields`, the last being an
object of names with specifiers. The first two may be left out and are then empty; other keys are
passed over. Names that come again are kept, so that building the template can tell of them.

A schema may also be an array of the three parts in this order; the first two cannot be left out
there as long as `fields` is given.

## Main definitions

* `Schema.read`, `Schema.parse` — reading a schema.
* `Schema.text` — writing it.
-/

set_option autoImplicit false

namespace TypedNames

namespace Schema

open Json (Token Problem refuse readText skip)

/-- What is expected where a schema is. -/
def phrase : String := "struct SchemaConfig"

/-- What is expected where a text is. -/
def textPhrase : String := "a string"

/-- What is expected where the fields of a schema are. -/
def fieldsPhrase : String := "an object mapping field names to format specifiers"

/-- The text at the start of the tokens. -/
def readString : List Token → Except Problem (String × List Token)
  | [] => .error .malformed
  | .text pieces :: rest => (readText pieces).map (·, rest)
  | token :: _ => .error (refuse token textPhrase)

/-- The name and the specifier that an entry of an object gives. -/
def readSpecEntry (pieces : List Json.Piece) (token : Token) :
    Except Problem (String × String) := do
  let name ← readText pieces
  let (spec, _) ← readString [token]
  return (name, spec)

/-- The names with specifiers of an object up to its closing brace. -/
def readSpecEntries : List Token → Except Problem (List (String × String) × List Token)
  | .text pieces :: .colon :: token :: rest =>
    match readSpecEntry pieces token with
    | .error problem => .error problem
    | .ok entry => match rest with
      | .comma :: more => (readSpecEntries more).map fun found => (entry :: found.1, found.2)
      | .closeBrace :: more => .ok ([entry], more)
      | _ => .error .malformed
  | _ => .error .malformed

/-- The names with specifiers at the start of the tokens. -/
def readSpecs : List Token → Except Problem (List (String × String) × List Token)
  | [] => .error .malformed
  | .openBrace :: .closeBrace :: rest => .ok ([], rest)
  | .openBrace :: rest => readSpecEntries rest
  | token :: _ => .error (refuse token fieldsPhrase)

/-- The parts of a schema that have been read. -/
structure Parts where
  /-- The leading text. -/
  lead : Option String
  /-- The trailing text. -/
  trail : Option String
  /-- The names with specifiers. -/
  specs : Option (List (String × String))

/-- The schema that the parts make; the fields have to be there. -/
def Parts.finish (p : Parts) : Except Problem Schema :=
  match p.specs with
  | some specs => .ok ⟨p.lead.getD "", p.trail.getD "", specs⟩
  | none => .error (.mismatch (.missingKey "fields"))

/-- The value of a key behind its colon. -/
def afterColon {α : Type} (read : List Token → Except Problem (α × List Token)) :
    List Token → Except Problem (α × List Token)
  | .colon :: rest => read rest
  | _ => .error .malformed

/-- The same parts, behind a value that is passed over. -/
def skipMember (p : Parts) (tokens : List Token) : Except Problem (Parts × List Token) :=
  match skip none tokens with
  | some after => .ok (p, after)
  | none => .error .malformed

/-- The parts after one more entry, the key of which has been read. A key of the three that comes
again is refused before its value is looked at. -/
def readMember (p : Parts) (key : String) (tokens : List Token) :
    Except Problem (Parts × List Token) :=
  if key = "prefix" then
    if p.lead.isSome then .error (.mismatch (.repeatedKey key))
    else (afterColon readString tokens).map fun found => ({ p with lead := found.1 }, found.2)
  else if key = "postfix" then
    if p.trail.isSome then .error (.mismatch (.repeatedKey key))
    else (afterColon readString tokens).map fun found => ({ p with trail := found.1 }, found.2)
  else if key = "fields" then
    if p.specs.isSome then .error (.mismatch (.repeatedKey key))
    else (afterColon readSpecs tokens).map fun found => ({ p with specs := found.1 }, found.2)
  else afterColon (skipMember p) tokens

/-- A reader that leaves fewer tokens than it gets. -/
def Shortens {α : Type} (reader : List Token → Except Problem (α × List Token)) : Prop :=
  ∀ tokens found, reader tokens = .ok found → found.2.length < tokens.length

/-- What an outcome was made from, if a function made it. -/
theorem ok_of_map {α β : Type} {f : α → β} {result : Except Problem α} {b : β}
    (h : result.map f = .ok b) : ∃ a, result = .ok a ∧ f a = b := by
  cases result with
  | error problem => simp [Except.map] at h
  | ok a => exact ⟨a, rfl, Except.ok.inj h⟩

/-- Reading a text takes tokens. -/
theorem shortens_readString : Shortens readString := by
  intro tokens found h
  unfold readString at h
  split at h
  · simp at h
  · obtain ⟨_, _, rfl⟩ := ok_of_map h
    simp
  · simp at h

/-- Reading the entries of an object takes tokens. -/
theorem shortens_readSpecEntries : Shortens readSpecEntries := by
  intro tokens found h
  fun_induction readSpecEntries tokens generalizing found with
  | case1 => simp at h
  | case2 pieces token entry _ more ih =>
    obtain ⟨inner, hi, rfl⟩ := ok_of_map h
    have := ih inner hi
    simp only [List.length_cons]
    omega
  | case3 pieces token entry _ more =>
    simp only [Except.ok.injEq] at h
    simp only [← h, List.length_cons]
    omega
  | case4 => simp at h
  | case5 => simp at h

/-- Reading an object of names with specifiers takes tokens. -/
theorem shortens_readSpecs : Shortens readSpecs := by
  intro tokens found h
  unfold readSpecs at h
  split at h
  · simp at h
  · simp only [Except.ok.injEq] at h
    simp only [← h, List.length_cons]
    omega
  · exact Nat.lt_succ_of_lt (shortens_readSpecEntries _ found h)
  · simp at h

/-- Passing over a value takes tokens. -/
theorem shortens_skipMember (p : Parts) : Shortens (skipMember p) := by
  intro tokens found h
  unfold skipMember at h
  split at h
  · next after hs =>
    simp only [Except.ok.injEq] at h
    exact h ▸ Json.length_lt_of_skipFrom hs
  · simp at h

/-- Reading a colon and then something that takes tokens takes tokens. -/
theorem shortens_afterColon {α : Type} {reader : List Token → Except Problem (α × List Token)}
    (shortens : Shortens reader) : Shortens (afterColon reader) := by
  intro tokens found h
  unfold afterColon at h
  split at h
  · exact Nat.lt_succ_of_lt (shortens _ found h)
  · simp at h

/-- Reading an entry takes tokens. -/
theorem shortens_readMember (p : Parts) (key : String) : Shortens (readMember p key) := by
  intro tokens found h
  unfold readMember at h
  split at h
  · split at h
    · simp at h
    · obtain ⟨inner, hi, rfl⟩ := ok_of_map h
      exact shortens_afterColon shortens_readString tokens inner hi
  · split at h
    · split at h
      · simp at h
      · obtain ⟨inner, hi, rfl⟩ := ok_of_map h
        exact shortens_afterColon shortens_readString tokens inner hi
    · split at h
      · split at h
        · simp at h
        · obtain ⟨inner, hi, rfl⟩ := ok_of_map h
          exact shortens_afterColon shortens_readSpecs tokens inner hi
      · exact shortens_afterColon (shortens_skipMember p) tokens found h

/-- The schema of an object up to its closing brace. -/
def readMembers (p : Parts) : List Token → Except Problem (Schema × List Token)
  | .text pieces :: rest =>
    match readText pieces with
    | .error problem => .error problem
    | .ok key => match _h : readMember p key rest with
      | .error problem => .error problem
      | .ok (parts, .comma :: more) => readMembers parts more
      | .ok (parts, .closeBrace :: more) => parts.finish.map (·, more)
      | .ok _ => .error .malformed
  | _ => .error .malformed
termination_by tokens => tokens.length
decreasing_by
  have := shortens_readMember p key rest _ _h
  simp only [List.length_cons] at this ⊢
  omega

/-- One more part of an array: none if the array ends here. -/
def readItem {α : Type} (first : Bool) (read : List Token → Except Problem (α × List Token))
    (tokens : List Token) : Except Problem (Option α × List Token) :=
  match first, tokens with
  | _, .closeBracket :: _ => .ok (none, tokens)
  | true, _ => (read tokens).map fun found => (some found.1, found.2)
  | false, .comma :: rest => (read rest).map fun found => (some found.1, found.2)
  | false, _ => .error .malformed

/-- The schema of an array up to its closing bracket. -/
def readItems (tokens : List Token) : Except Problem (Schema × List Token) := do
  let (lead, rest) ← readItem true readString tokens
  let (trail, rest) ← readItem false readString rest
  let (specs, rest) ← readItem false readSpecs rest
  match specs, rest with
  | none, _ => .error (.mismatch (.tooShort 2 (phrase ++ " with 3 elements")))
  | some specs, .closeBracket :: after => .ok (⟨lead.getD "", trail.getD "", specs⟩, after)
  | some _, _ => .error .malformed

/-- The schema at the start of the tokens. -/
def read : List Token → Except Problem (Schema × List Token)
  | [] => .error .malformed
  | .openBrace :: .closeBrace :: rest => (Parts.finish ⟨none, none, none⟩).map (·, rest)
  | .openBrace :: rest => readMembers ⟨none, none, none⟩ rest
  | .openBracket :: rest => readItems rest
  | token :: _ => .error (refuse token phrase)

/-- The schema that a document describes. -/
def parse (document : String) : Except Problem Schema :=
  Json.parseDocument read document

/-- A schema in JSON without white space. -/
def text (s : Schema) : List Char :=
  Json.objectText [
    ("prefix", Json.quote s.lead.toList),
    ("postfix", Json.quote s.trail.toList),
    ("fields", Json.objectText (s.specs.map fun e => (e.1, Json.quote e.2.toList)))]

end Schema

end TypedNames
