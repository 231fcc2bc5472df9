import TypedNames.Json.Problem
import TypedNames.Json.Skip
import TypedNames.Record

/-!
# Values and records in JSON

A value is a boolean, a number or a string of JSON. An integer of 64 bits is an integer; every
other number is a double precision number, an unsigned integer of 64 bits the nearest one. A
record is an object of values; where a name comes again, the new value takes the place of the old
one.

A value that is none of these is refused as soon as it has been read, before anything behind it
is looked at, and a flaw in its form counts more than its kind.

## Main definitions

* `Json.readValue`, `Json.parseValue` — reading a value.
* `Json.readRecord`, `Json.parseRecord` — reading a record.
* `Json.valueText`, `Json.recordText`, `Json.prettyRecordText` — writing.
-/

set_option autoImplicit false

namespace TypedNames.Json

/-- The value of a number. -/
def Number.toValue : Number → Value
  | .integer i =>
    if i < Integer.halfRange then .int (Int64.ofInt i)
    else .float (Binary64.ofQuotient false i.natAbs 1)
  | .float negative m => .float (.finite negative m)

/-- The text that the pieces of a string make. -/
def readText (pieces : List Piece) : Except Problem String :=
  (joinPieces? pieces).elim (.error .malformed) fun s => .ok (String.ofList s)

/-- The value that a token denotes, or that starts with it and goes on with the tokens behind it;
`room` is how many brackets and braces may be open. -/
def readValue (room : Nat) (token : Token) (rest : List Token) : Except Problem Value :=
  match token with
  | .bool b => .ok (.bool b)
  | .number n => n.value?.elim (.error .malformed) fun v => .ok v.toValue
  | .text pieces => (readText pieces).map .str
  | other =>
    if (skip (some room) (other :: rest)).isSome then .error (.mismatch .notScalar)
    else .error .malformed

/-- What a reader makes of a whole document. -/
def parseDocument {α : Type} (read : List Token → Except Problem (α × List Token))
    (document : String) : Except Problem α := do
  let (found, rest) ← read (tokens document.toList)
  if rest.isEmpty then .ok found else .error .malformed

/-- The value that a document denotes. -/
def parseValue (document : String) : Except Problem Value :=
  parseDocument (fun
    | [] => .error .malformed
    | token :: rest => (readValue maxDepth token rest).map (·, rest)) document

/-- What is expected where a record is. -/
def recordPhrase : String :=
  "an object of field names to bool, integer, float or string values"

/-- The record that has `start` and then the entries of an object up to its closing brace. -/
def readEntries (start : Record) : List Token → Except Problem (Record × List Token)
  | .text pieces :: .colon :: token :: rest => do
    let name ← readText pieces
    let value ← readValue (maxDepth - 1) token rest
    match rest with
    | .comma :: more => readEntries (start.insert name value) more
    | .closeBrace :: more => .ok (start.insert name value, more)
    | _ => .error .malformed
  | _ => .error .malformed

/-- The record at the start of the tokens. -/
def readRecord : List Token → Except Problem (Record × List Token)
  | [] => .error .malformed
  | .openBrace :: .closeBrace :: rest => .ok (.empty, rest)
  | .openBrace :: rest => readEntries .empty rest
  | token :: _ => .error (refuse token recordPhrase)

/-- The record that a document denotes. -/
def parseRecord (document : String) : Except Problem Record :=
  parseDocument readRecord document

/-- A value in JSON. -/
def valueText : Value → List Char
  | .bool b => if b then ['t', 'r', 'u', 'e'] else ['f', 'a', 'l', 's', 'e']
  | .int i => Integer.text i
  | .float x => floatText x
  | .str s => quote s.toList

/-- An entry of an object, with `gap` behind the colon. -/
def entryText (gap : List Char) (name : String) (value : List Char) : List Char :=
  quote name.toList ++ ':' :: gap ++ value

/-- An object with the given entries, without white space. -/
def objectText (entries : List (String × List Char)) : List Char :=
  '\x7b' :: [','].intercalate (entries.map fun e => entryText [] e.1 e.2) ++ ['\x7d']

/-- A record in JSON without white space. -/
def recordText (r : Record) : List Char :=
  objectText (r.entries.map fun e => (e.1, valueText e.2))

/-- A record in JSON with a line for each entry. -/
def prettyRecordText (r : Record) : List Char :=
  if r.isEmpty then ['\x7b', '\x7d']
  else
    ['\x7b', '\n'] ++
      [',', '\n'].intercalate
        (r.entries.map fun e => [' ', ' '] ++ entryText [' '] e.1 (valueText e.2)) ++
      ['\n', '\x7d']

end TypedNames.Json
