import TypedNames.Json.Token

/-!
# Passing over JSON values

Going over a value without keeping it, to find where it ends and whether it is well formed. A
strict passage also wants each number to be in range, each string to be a text, and values not to
be nested too deeply; a lenient one looks at the form alone.

## Main definitions

* `Json.skip` — the tokens behind a value.
* `Json.Place` — what may come next inside a value.
* `Json.maxDepth` — how many brackets and braces may be open in a strict passage.
-/

set_option autoImplicit false

namespace TypedNames.Json

/-- How many brackets and braces may be open at the same time. -/
def maxDepth : Nat := 127

/-- What may come next inside a value. -/
inductive Place
  /-- A value. -/
  | value
  /-- A value or the end of a sequence. -/
  | firstItem
  /-- A key or the end of an object. -/
  | firstKey
  /-- A key. -/
  | key
  /-- The colon behind a key. -/
  | colon
  /-- A comma or the end of what is open. -/
  | more
  deriving DecidableEq, Repr

/-- Whether a number is in range and a string is a text. -/
def Token.isSound : Token → Bool
  | .number n => n.value?.isSome
  | .text pieces => (joinPieces? pieces).isSome
  | _ => true

/-- Whether a token is a whole value. -/
def Token.isAtom : Token → Bool
  | .null | .bool _ | .number _ | .text _ => true
  | _ => false

/-- Where a value leads to: into a sequence, into an object, or behind an atom. The list `opened`
holds what is open, innermost first: `true` for an object, `false` for a sequence. In a strict
passage `room` is how many brackets and braces may be open; in a lenient one there is no such
number. -/
def startValue (room : Option Nat) (opened : List Bool) (token : Token) :
    Option (Place × List Bool) :=
  match token with
  | .openBracket =>
    if room.all fun n => opened.length < n then some (.firstItem, false :: opened) else none
  | .openBrace =>
    if room.all fun n => opened.length < n then some (.firstKey, true :: opened) else none
  | atom => if atom.isAtom && (room.isNone || atom.isSound) then some (.more, opened) else none

/-- Where a key leads to. -/
def startKey (room : Option Nat) (opened : List Bool) (token : Token) :
    Option (Place × List Bool) :=
  match token with
  | .text pieces =>
    if room.isNone || (joinPieces? pieces).isSome then some (.colon, opened) else none
  | _ => none

/-- Where a token leads to from a place inside a value. -/
def step (room : Option Nat) (place : Place) (opened : List Bool) (token : Token) :
    Option (Place × List Bool) :=
  match place, token with
  | .value, token => startValue room opened token
  | .firstItem, .closeBracket => some (.more, opened.tail)
  | .firstItem, token => startValue room opened token
  | .firstKey, .closeBrace => some (.more, opened.tail)
  | .firstKey, token => startKey room opened token
  | .key, token => startKey room opened token
  | .colon, .colon => some (.value, opened)
  | .colon, _ => none
  | .more, token =>
    match token, opened with
    | .comma, true :: _ => some (.key, opened)
    | .comma, false :: _ => some (.value, opened)
    | .closeBrace, true :: outer => some (.more, outer)
    | .closeBracket, false :: outer => some (.more, outer)
    | _, _ => none

/-- The tokens behind a value, from a place inside it on. -/
def skipFrom (room : Option Nat) (place : Place) (opened : List Bool) :
    List Token → Option (List Token)
  | [] => none
  | token :: rest =>
    match step room place opened token with
    | none => none
    | some (.more, []) => some rest
    | some (next, inner) => skipFrom room next inner rest

/-- The tokens behind a value. -/
def skip (room : Option Nat) (tokens : List Token) : Option (List Token) :=
  skipFrom room .value [] tokens

/-- There are fewer tokens behind a value than with it. -/
theorem length_lt_of_skipFrom {room : Option Nat} {place : Place} {opened : List Bool}
    {tokens after : List Token} (h : skipFrom room place opened tokens = some after) :
    after.length < tokens.length := by
  induction tokens generalizing place opened with
  | nil => simp [skipFrom] at h
  | cons token rest ih =>
    rw [skipFrom] at h
    split at h
    · simp at h
    · simp only [Option.some.injEq] at h
      simp [h]
    · exact Nat.lt_succ_of_lt (ih h)

end TypedNames.Json
