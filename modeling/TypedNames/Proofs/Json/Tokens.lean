import Mathlib.Data.List.Forall2
import TypedNames.Json.Record
import TypedNames.Proofs.Json.Quoting
import TypedNames.Proofs.Json.WrittenNumbers

/-!
# Tokens of written documents

What is written has known tokens, and white space between them makes no difference. An object can
be laid out with any white space in front of its entries, behind colons and in front of the closing
brace; without white space and with a line for each entry are two such layouts.

## Main definitions

* `Json.HasTokens` — the tokens that a text has in front of whatever does not go on with it.
* `Json.Layout` — where white space stands in an object.
* `Json.objectTokens` — the tokens of an object whose entries have the given ones.

## Main results

* `Json.hasTokens_quote`, `Json.hasTokens_spelling` — the token of a string and of a number.
* `Json.Layout.hasTokens_objectText` — the tokens of an object.
* `Json.Layout.objectText_compact`, `Json.Layout.objectText_lines` — the two layouts in use.
-/

set_option autoImplicit false

namespace TypedNames.Json

/-! ## Single tokens -/

variable {c : Char} {text rest : List Char} {token : Token}

/-- Space in front of a document is passed over. -/
theorem tokens_space (space : isSpace c = true) (rest : List Char) :
    tokens (c :: rest) = tokens rest := by
  rw [tokens, if_pos space]

/-- Any amount of space is passed over. -/
theorem tokens_spaces (spaces : ∀ c ∈ text, isSpace c = true) (rest : List Char) :
    tokens (text ++ rest) = tokens rest := by
  induction text with
  | nil => rfl
  | cons c text ih =>
    rw [List.cons_append, tokens_space (spaces c List.mem_cons_self),
      ih fun d hd => spaces d (List.mem_cons_of_mem c hd)]

/-- A punctuation mark is a token. -/
theorem tokens_mark (space : isSpace c = false) (mark : mark? c = some token) (rest : List Char) :
    tokens (c :: rest) = token :: tokens rest := by
  rw [tokens, if_neg (Bool.eq_false_iff.1 space)]
  simp only [mark]

/-- What starts with neither space nor punctuation is a token if it can be read as one. -/
theorem tokens_atom (space : isSpace c = false) (mark : mark? c = none)
    (atom : readAtom? (c :: text) = some (token, rest)) :
    tokens (c :: text) = token :: tokens rest := by
  rw [tokens, if_neg (Bool.eq_false_iff.1 space)]
  simp only [mark]
  split
  · next found after h =>
    obtain ⟨rfl, rfl⟩ := Prod.mk.inj (Option.some.inj (h.symm.trans atom))
    rfl
  · next h => exact absurd (h.symm.trans atom) (by simp)

/-- The text has the given tokens in front of whatever does not go on with a number. -/
def HasTokens (text : List Char) (row : List Token) : Prop :=
  ∀ rest, Stops rest → tokens (text ++ rest) = row ++ tokens rest

/-- The tokens of a text are those of a document that it is alone. -/
theorem tokens_of_hasTokens {row : List Token} (h : HasTokens text row) : tokens text = row := by
  have htokens := h [] (by simp [Stops])
  rwa [List.append_nil, tokens, List.append_nil] at htokens

/-- A quoted text is one token. -/
theorem tokens_quote (text rest : List Char) :
    tokens (quote text ++ rest) = .text (text.map pieceOf) :: tokens rest := by
  have hread := readPieces?_quoted text rest
  have hquote : quote text ++ rest = '"' :: (text.flatMap quoteChar ++ '"' :: rest) := by
    simp [quote]
  rw [hquote]
  apply tokens_atom (by decide) (by decide)
  rw [readAtom?, hread]
  rfl

/-- **A quoted text has one token.** -/
theorem hasTokens_quote (text : List Char) :
    HasTokens (quote text) [.text (text.map pieceOf)] :=
  fun rest _ => tokens_quote text rest

/-- **A spelled number has one token.** -/
theorem hasTokens_spelling {n : NumberText} (h : n.IsSpelled) :
    HasTokens n.spelling [.number n] := by
  intro rest stops
  obtain ⟨c, more, hcons, hc⟩ := exists_spelling_eq_cons h
  have hread := readNumber?_spelling h stops
  rw [hcons, List.cons_append] at hread ⊢
  have hother {d : Char} (hd : d.isDigit = false) (hne : d ≠ '-') : c ≠ d := by
    rcases hc with rfl | hc
    · exact hne.symm
    · exact ne_of_isDigit hc hd
  apply tokens_atom
  · simp [isSpace, hother]
  · unfold mark?
    split <;> simp_all
  · unfold readAtom?
    split <;> simp_all

/-- The word for a truth value has one token. -/
theorem hasTokens_bool (b : Bool) : HasTokens (valueText (.bool b)) [.bool b] := by
  intro rest _
  cases b with
  | true => exact tokens_atom (by decide) (by decide) rfl
  | false => exact tokens_atom (by decide) (by decide) rfl

/-- The word for nothing has one token. -/
theorem hasTokens_null : HasTokens ['n', 'u', 'l', 'l'] [.null] :=
  fun _ _ => tokens_atom (by decide) (by decide) rfl

/-! ## Objects -/

/-- Where white space stands in an object. -/
structure Layout where
  /-- The space in front of each entry. -/
  lead : List Char
  /-- The space behind each colon. -/
  gap : List Char
  /-- The space in front of the closing brace, if there are entries. -/
  trail : List Char
  isSpace_lead : ∀ c ∈ lead, isSpace c = true
  isSpace_gap : ∀ c ∈ gap, isSpace c = true
  isSpace_trail : ∀ c ∈ trail, isSpace c = true

/-- The tokens of an entry whose value has the given ones. -/
def entryTokens (name : String) (value : List Token) : List Token :=
  .text (name.toList.map pieceOf) :: .colon :: value

/-- The tokens of the rest of an object, from its next entry on. -/
def rowTokens : List (List Token) → List Token
  | [] => [.closeBrace]
  | [entry] => entry ++ [.closeBrace]
  | entry :: next :: more => entry ++ .comma :: rowTokens (next :: more)

/-- The tokens of an object whose entries have the given ones. -/
def objectTokens (entries : List (List Token)) : List Token :=
  .openBrace :: rowTokens entries

namespace Layout

/-- No white space at all. -/
def compact : Layout where
  lead := []
  gap := []
  trail := []
  isSpace_lead := by simp
  isSpace_gap := by simp
  isSpace_trail := by simp

/-- A line for each entry, two spaces further in than the object. -/
def lines (depth : Nat) : Layout where
  lead := '\n' :: List.replicate (2 * (depth + 1)) ' '
  gap := [' ']
  trail := '\n' :: List.replicate (2 * depth) ' '
  isSpace_lead := by
    intro c hc
    rcases List.mem_cons.1 hc with rfl | hc
    · rfl
    · rw [List.eq_of_mem_replicate hc]
      rfl
  isSpace_gap := by simp [isSpace]
  isSpace_trail := by
    intro c hc
    rcases List.mem_cons.1 hc with rfl | hc
    · rfl
    · rw [List.eq_of_mem_replicate hc]
      rfl

/-- The rest of an object, from its next entry on. -/
def rowText (l : Layout) : List (String × List Char) → List Char
  | [] => ['\x7d']
  | [entry] => l.lead ++ (entryText l.gap entry.1 entry.2 ++ (l.trail ++ ['\x7d']))
  | entry :: next :: more =>
    l.lead ++ (entryText l.gap entry.1 entry.2 ++ ',' :: l.rowText (next :: more))

/-- An object with the given entries. -/
def objectText (l : Layout) (entries : List (String × List Char)) : List Char :=
  '\x7b' :: l.rowText entries

/-- The entries of an object stand between its leading and its trailing space. -/
theorem rowText_eq (l : Layout) {entries : List (String × List Char)} (ne : entries ≠ []) :
    l.rowText entries = l.lead ++ ((',' :: l.lead).intercalate
      (entries.map fun e => entryText l.gap e.1 e.2) ++ (l.trail ++ ['\x7d'])) := by
  induction entries with
  | nil => exact absurd rfl ne
  | cons entry entries ih =>
    cases entries with
    | nil => simp [rowText]
    | cons next more =>
      rw [rowText, ih (List.cons_ne_nil next more)]
      simp only [List.map_cons]
      rw [List.intercalate_cons_cons]
      simp

/-- **An object without white space** is one of the layouts. -/
theorem objectText_compact (entries : List (String × List Char)) :
    compact.objectText entries = Json.objectText entries := by
  cases entries with
  | nil => rfl
  | cons entry entries =>
    rw [objectText, rowText_eq _ (List.cons_ne_nil entry entries)]
    rfl

/-- Space in front of every entry but the first may be counted to the comma before it. -/
theorem intercalate_map_append (mark lead : List Char) {texts : List (List Char)}
    (ne : texts ≠ []) :
    mark.intercalate (texts.map (lead ++ ·)) = lead ++ (mark ++ lead).intercalate texts := by
  induction texts with
  | nil => exact absurd rfl ne
  | cons text texts ih =>
    cases texts with
    | nil => simp
    | cons next more =>
      rw [List.map_cons, List.map_cons, List.intercalate_cons_cons, ← List.map_cons,
        ih (List.cons_ne_nil next more), List.intercalate_cons_cons]
      simp

/-- **A record with a line for each entry** is one of the layouts. -/
theorem objectText_lines (r : Record) :
    (lines 0).objectText (r.entries.map fun e => (e.1, valueText e.2)) = prettyRecordText r := by
  obtain ⟨entries, nodup⟩ := r
  cases entries with
  | nil => rfl
  | cons entry entries =>
    have hmap :
        ((entry :: entries).map fun e => [' ', ' '] ++ entryText [' '] e.1 (valueText e.2)) =
        ((entry :: entries).map fun e => entryText [' '] e.1 (valueText e.2)).map
          ([' ', ' '] ++ ·) := by
      rw [List.map_map]
      rfl
    rw [objectText, rowText_eq _ (by simp), prettyRecordText, if_neg (by simp [Record.isEmpty]),
      hmap, intercalate_map_append _ _ (by simp), List.map_map]
    rfl

end Layout

/-- Space does not go on with a number. -/
theorem stops_of_isSpace {c : Char} (space : isSpace c = true) (rest : List Char) :
    Stops (c :: rest) := by
  intro d hd
  obtain rfl : c = d := by simpa using hd
  simp only [isSpace, Bool.or_eq_true, beq_iff_eq] at space
  rcases space with ((rfl | rfl) | rfl) | rfl <;> decide

/-- A comma does not go on with a number. -/
theorem stops_comma (rest : List Char) : Stops (',' :: rest) := by
  intro d hd
  obtain rfl : ',' = d := by simpa using hd
  decide

/-- A closing brace, with space in front of it or without, does not go on with a number. -/
theorem stops_closeBrace {trail : List Char} (spaces : ∀ c ∈ trail, isSpace c = true)
    (rest : List Char) : Stops (trail ++ '\x7d' :: rest) := by
  cases trail with
  | nil =>
    intro d hd
    obtain rfl : '\x7d' = d := by simpa using hd
    decide
  | cons c trail => exact stops_of_isSpace (spaces c List.mem_cons_self) _

variable {value : List Char} {row : List Token}

/-- An entry has the tokens of its name and of its value, with a colon between them. -/
theorem hasTokens_entryText {gap : List Char} (spaces : ∀ c ∈ gap, isSpace c = true) (name : String)
    (h : HasTokens value row) : HasTokens (entryText gap name value) (entryTokens name row) := by
  intro rest stops
  have hsplit : entryText gap name value ++ rest =
      quote name.toList ++ ':' :: (gap ++ (value ++ rest)) := by
    simp [entryText]
  rw [hsplit, tokens_quote, tokens_mark (by decide) rfl, tokens_spaces spaces, h rest stops]
  rfl

/-- The entry has the given tokens. -/
def EntryHasTokens (entry : String × List Char) (row : List Token) : Prop :=
  ∃ value, HasTokens entry.2 value ∧ row = entryTokens entry.1 value

/-- The entries of an object have their tokens, with commas between them. -/
theorem Layout.tokens_rowText (l : Layout) {entries : List (String × List Char)}
    {rows : List (List Token)} (h : List.Forall₂ EntryHasTokens entries rows) (rest : List Char) :
    tokens (l.rowText entries ++ rest) = rowTokens rows ++ tokens rest := by
  induction h with
  | nil => exact tokens_mark (by decide) rfl rest
  | @cons entry row entries rows hentry hmore ih =>
    obtain ⟨value, hvalue, rfl⟩ := hentry
    have htokens := hasTokens_entryText l.isSpace_gap entry.1 hvalue
    cases hmore with
    | nil =>
      rw [rowText, rowTokens, List.append_assoc, tokens_spaces l.isSpace_lead, List.append_assoc,
        List.append_assoc, List.singleton_append,
        htokens _ (stops_closeBrace l.isSpace_trail rest), tokens_spaces l.isSpace_trail,
        tokens_mark (by decide) rfl]
      simp
    | cons hnext hmore =>
      rw [rowText, rowTokens, List.append_assoc, tokens_spaces l.isSpace_lead, List.append_assoc,
        List.cons_append, htokens _ (stops_comma _), tokens_mark (by decide) rfl, ih]
      simp

/-- **An object has the tokens of its entries**, whatever its layout. -/
theorem Layout.hasTokens_objectText (l : Layout) {entries : List (String × List Char)}
    {rows : List (List Token)} (h : List.Forall₂ EntryHasTokens entries rows) :
    HasTokens (l.objectText entries) (objectTokens rows) := by
  intro rest _
  rw [objectText, List.cons_append, tokens_mark (by decide) rfl, l.tokens_rowText h]
  rfl

end TypedNames.Json
