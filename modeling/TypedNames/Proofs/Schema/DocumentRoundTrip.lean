import TypedNames.Proofs.Json.Members
import TypedNames.Proofs.Template.Construction
import TypedNames.Schema.Document

/-!
# Schemas through JSON

A schema that is written is read as itself: its two texts and its pairs of names with specifiers,
in their order and with names that come again. So it builds the same template, or fails to build one
in the same way.

## Main definitions

* `Schema.textIn` — a schema with white space between its tokens.

## Main results

* `Schema.readSpecs_objectTokens` — the names with specifiers, read one after another.
* `Schema.parse_textIn` — a written schema, in any layout, is read as itself.
* `Schema.build_parse_text` — what a written schema builds.
-/

set_option autoImplicit false

namespace TypedNames.Schema

open Json (Token Layout pieceOf entryTokens rowTokens objectTokens HasTokens)

variable {p : Parts}

/-- A schema in JSON, the parts in one layout and the names with specifiers in another one. -/
def textIn (s : Schema) (outer inner : Layout) : List Char :=
  outer.objectText [
    ("prefix", Json.quote s.lead.toList),
    ("postfix", Json.quote s.trail.toList),
    ("fields", inner.objectText (s.specs.map fun e => (e.1, Json.quote e.2.toList)))]

/-- A schema without white space is one of these. -/
theorem textIn_compact (s : Schema) : s.textIn .compact .compact = s.text := by
  rw [textIn, Layout.objectText_compact, Layout.objectText_compact]
  rfl

/-! ## Tokens -/

/-- The token of a quoted text. -/
def textToken (s : String) : Token :=
  .text (s.toList.map pieceOf)

/-- The tokens of names with specifiers. -/
def specRows (specs : List (String × String)) : List (List Token) :=
  specs.map fun e => entryTokens e.1 [textToken e.2]

/-- The tokens of a written schema. -/
theorem hasTokens_textIn (s : Schema) (outer inner : Layout) :
    HasTokens (s.textIn outer inner) (objectTokens [
      entryTokens "prefix" [textToken s.lead],
      entryTokens "postfix" [textToken s.trail],
      entryTokens "fields" (objectTokens (specRows s.specs))]) := by
  have hspecs : List.Forall₂ Json.EntryHasTokens
      (s.specs.map fun e => (e.1, Json.quote e.2.toList)) (specRows s.specs) := by
    rw [specRows, List.forall₂_map_left_iff, List.forall₂_map_right_iff, List.forall₂_same]
    exact fun e _ => ⟨_, Json.hasTokens_quote e.2.toList, rfl⟩
  exact outer.hasTokens_objectText (.cons ⟨_, Json.hasTokens_quote s.lead.toList, rfl⟩
    (.cons ⟨_, Json.hasTokens_quote s.trail.toList, rfl⟩
      (.cons ⟨_, inner.hasTokens_objectText hspecs, rfl⟩ .nil)))

/-! ## Reading -/

/-- A quoted text is read as itself. -/
theorem readString_textToken (s : String) (rest : List Token) :
    readString (textToken s :: rest) = .ok (s, rest) := by
  rw [textToken, readString, Json.readText_map_pieceOf]
  rfl

/-- A name with a specifier is read as itself. -/
theorem readSpecEntry_textToken (e : String × String) :
    readSpecEntry (e.1.toList.map pieceOf) (textToken e.2) = .ok e := by
  rw [readSpecEntry, Json.readText_map_pieceOf, readString_textToken]
  rfl

/-- Names with specifiers are read one after another. -/
theorem readSpecEntries_rowTokens {specs : List (String × String)} (ne : specs ≠ [])
    (rest : List Token) :
    readSpecEntries (rowTokens (specRows specs) ++ rest) = .ok (specs, rest) := by
  induction specs with
  | nil => exact absurd rfl ne
  | cons e more ih =>
    cases more with
    | nil =>
      change readSpecEntries (.text (e.1.toList.map pieceOf) :: .colon :: textToken e.2 ::
        .closeBrace :: rest) = _
      rw [readSpecEntries, readSpecEntry_textToken]
    | cons next more =>
      change readSpecEntries (.text (e.1.toList.map pieceOf) :: .colon :: textToken e.2 ::
        .comma :: (rowTokens (specRows (next :: more)) ++ rest)) = _
      rw [readSpecEntries, readSpecEntry_textToken]
      dsimp only
      rw [ih (List.cons_ne_nil next more)]
      rfl

/-- **An object of names with specifiers is read as what was written**, with names that come
again. -/
theorem readSpecs_objectTokens (specs : List (String × String)) (rest : List Token) :
    readSpecs (objectTokens (specRows specs) ++ rest) = .ok (specs, rest) := by
  cases specs with
  | nil => rfl
  | cons e more =>
    have hread : readSpecs (objectTokens (specRows (e :: more)) ++ rest) =
        readSpecEntries (rowTokens (specRows (e :: more)) ++ rest) := by
      cases more <;> rfl
    rw [hread, readSpecEntries_rowTokens (List.cons_ne_nil e more)]

/-- Once an entry is read, what stands behind it decides how the object goes on. -/
theorem readMembers_entryTokens {q : Parts} {key : String} {value rest : List Token}
    (h : readMember p key (.colon :: (value ++ rest)) = .ok (q, rest)) :
    readMembers p (entryTokens key value ++ rest) = match rest with
      | .comma :: more => readMembers q more
      | .closeBrace :: more => q.finish.map (·, more)
      | _ => .error .malformed := by
  change readMembers p (.text (key.toList.map pieceOf) :: .colon :: (value ++ rest)) = _
  rw [readMembers]
  simp only [Json.readText_map_pieceOf]
  split
  · next problem h' => cases h'.symm.trans h
  · next parts more h' =>
    cases h'.symm.trans h
    rfl
  · next parts more h' =>
    cases h'.symm.trans h
    rfl
  · next found notComma notClose h' =>
    cases h'.symm.trans h
    split
    · exact absurd rfl (notComma q _)
    · exact absurd rfl (notClose q _)
    · rfl

/-- The tokens of a schema are read as the schema. -/
theorem read_objectTokens (s : Schema) :
    read (objectTokens [
      entryTokens "prefix" [textToken s.lead],
      entryTokens "postfix" [textToken s.trail],
      entryTokens "fields" (objectTokens (specRows s.specs))]) = .ok (s, []) := by
  change readMembers ⟨none, none, none⟩ (entryTokens "prefix" [textToken s.lead] ++
    .comma :: (entryTokens "postfix" [textToken s.trail] ++
      .comma :: (entryTokens "fields" (objectTokens (specRows s.specs)) ++ [.closeBrace]))) = _
  have hlead (rest : List Token) :
      readMember ⟨none, none, none⟩ "prefix" (.colon :: ([textToken s.lead] ++ rest)) =
        .ok (⟨some s.lead, none, none⟩, rest) := by
    rw [readMember, if_pos rfl, List.singleton_append, afterColon, readString_textToken]
    rfl
  have htrail (rest : List Token) :
      readMember ⟨some s.lead, none, none⟩ "postfix" (.colon :: ([textToken s.trail] ++ rest)) =
        .ok (⟨some s.lead, some s.trail, none⟩, rest) := by
    rw [readMember, if_neg (by decide), if_pos rfl, List.singleton_append, afterColon,
      readString_textToken]
    rfl
  have hspecs (rest : List Token) :
      readMember ⟨some s.lead, some s.trail, none⟩ "fields"
          (.colon :: (objectTokens (specRows s.specs) ++ rest)) =
        .ok (⟨some s.lead, some s.trail, some s.specs⟩, rest) := by
    rw [readMember, if_neg (by decide), if_neg (by decide), if_pos rfl, afterColon,
      readSpecs_objectTokens]
    rfl
  rw [readMembers_entryTokens (hlead _)]
  dsimp only
  rw [readMembers_entryTokens (htrail _)]
  dsimp only
  rw [readMembers_entryTokens (hspecs _)]
  rfl

/-- **A written schema is read as itself**, whatever the white space between its tokens. -/
theorem parse_textIn (s : Schema) (outer inner : Layout) :
    parse (String.ofList (s.textIn outer inner)) = .ok s := by
  rw [parse, Json.parseDocument, String.toList_ofList,
    Json.tokens_of_hasTokens (s.hasTokens_textIn outer inner), read_objectTokens]
  rfl

/-- **Schemas through JSON.** A schema that is written, with or without white space between its
tokens, is read as itself. So it builds what it did before, whatever the engine; and if its pairs
are fields among which a name comes again, that is the fault.

**Proof sketch.** The tokens of the text are known. Each of the three keys is read once and finds
its part empty; the names with specifiers are read one after another and none of them is dropped. -/
theorem build_parse_text (engine : Engine) (s : Schema) (outer inner : Layout) :
    parse (String.ofList s.text) = .ok s ∧
      parse (String.ofList (s.textIn outer inner)) = .ok s ∧
      (parse (String.ofList s.text)).map (Template.ofSchema engine) =
        .ok (Template.ofSchema engine s) ∧
      ∀ (before : List Field) (f : Field) (after : List Field),
        s.specs = (before ++ f :: after).map Field.pair → (before.map Field.name).Nodup →
          f.name ∈ before.map Field.name →
            (parse (String.ofList s.text)).map (build engine) =
              .ok (.error (.duplicateField f.name)) := by
  have hparse : parse (String.ofList s.text) = .ok s := textIn_compact s ▸ parse_textIn s _ _
  refine ⟨hparse, parse_textIn s outer inner, by rw [hparse]; rfl, ?_⟩
  intro before f after pairs distinct again
  have hbuild : s.build engine = .error (.duplicateField f.name) :=
    Template.ofSpecs_eq_of_builds (.repeated before f after pairs distinct again)
  rw [hparse, ← hbuild]
  rfl

end TypedNames.Schema
