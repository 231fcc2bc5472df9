import TypedNames.Json.Number
import TypedNames.Json.Text

/-!
# JSON tokens

A JSON document is a row of tokens with white space between them. Only space, tab, line feed and
carriage return are white space. The row ends with the document, or with a token that stands for
text that starts no token; a reader that gets so far refuses it.

Whether a number is in range and whether a string has paired code units is not looked at here,
since that does not matter everywhere.

## Main definitions

* `Json.Token` — a token.
* `Json.tokens` — the tokens of a document.
-/

set_option autoImplicit false

namespace TypedNames.Json

/-- A token of a JSON document. -/
inductive Token
  | openBracket
  | closeBracket
  | openBrace
  | closeBrace
  | comma
  | colon
  | null
  | bool (b : Bool)
  | number (n : NumberText)
  | text (pieces : List Piece)
  /-- Text that starts no token. -/
  | bad
  deriving DecidableEq, Repr

/-- Whether a character may stand between tokens. -/
def isSpace (c : Char) : Bool :=
  c == ' ' || c == '\t' || c == '\n' || c == '\r'

/-- The token of one punctuation mark. -/
def mark? : Char → Option Token
  | '[' => some .openBracket
  | ']' => some .closeBracket
  | '\x7b' => some .openBrace
  | '\x7d' => some .closeBrace
  | ',' => some .comma
  | ':' => some .colon
  | _ => none

/-- The token at the start of a text that starts with neither space nor punctuation, and what
follows it. -/
def readAtom? : List Char → Option (Token × List Char)
  | 'n' :: 'u' :: 'l' :: 'l' :: rest => some (.null, rest)
  | 't' :: 'r' :: 'u' :: 'e' :: rest => some (.bool true, rest)
  | 'f' :: 'a' :: 'l' :: 's' :: 'e' :: rest => some (.bool false, rest)
  | '"' :: rest => (readPieces? rest).map fun p => (.text p.1, p.2)
  | text => (readNumber? text).map fun p => (.number p.1, p.2)

/-- The text behind an atom is shorter than the text with it. -/
theorem length_lt_of_readAtom? {text after : List Char} {token : Token}
    (h : readAtom? text = some (token, after)) : after.length < text.length := by
  unfold readAtom? at h
  split at h
  · simp only [Option.some.injEq, Prod.mk.injEq] at h; simp [← h.2]; omega
  · simp only [Option.some.injEq, Prod.mk.injEq] at h; simp [← h.2]; omega
  · simp only [Option.some.injEq, Prod.mk.injEq] at h; simp [← h.2]; omega
  · simp only [Option.map_eq_some_iff, Prod.mk.injEq, Prod.exists] at h
    obtain ⟨_, _, hp, _, rfl⟩ := h
    exact Nat.lt_succ_of_lt (length_lt_of_readPieces? hp)
  · simp only [Option.map_eq_some_iff, Prod.mk.injEq, Prod.exists] at h
    obtain ⟨_, _, hp, _, rfl⟩ := h
    exact length_lt_of_readNumber? hp

/-- The tokens of a document. -/
def tokens : List Char → List Token
  | [] => []
  | c :: rest =>
    if isSpace c then tokens rest
    else match mark? c with
      | some token => token :: tokens rest
      | none => match _h : readAtom? (c :: rest) with
        | some (token, after) => token :: tokens after
        | none => [.bad]
termination_by text => text.length
decreasing_by
  · simp
  · simp
  · exact length_lt_of_readAtom? _h

end TypedNames.Json
