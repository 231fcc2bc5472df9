import TypedNames.Json.FloatText
import TypedNames.Json.Token
import TypedNames.Text.Quoted

/-!
# Problems with JSON documents

A document can fail to be JSON, or it can be JSON that does not mean what is asked for. Only in
the second case there is something to say about its content. The words for the first case and the
place in the document that is told in both are up to the reader of the document; they are left open.

## Main definitions

* `Json.Problem` — what is wrong with a document.
* `Json.Mismatch` — what is wrong with the content of a document.
* `Json.Mismatch.message` — how that is told.
* `Json.Telling` — the words and the place that a reader gives.
* `Json.Telling.message` — how a problem with a document is told.
* `Json.refuse` — the problem with a token where something else is expected.
-/

set_option autoImplicit false

namespace TypedNames.Json

/-- What was found in place of something else. -/
inductive Found
  | null
  | bool (b : Bool)
  | number (n : Number)
  | text (s : String)
  | sequence
  | map
  deriving DecidableEq

/-- How the content is named. -/
def Found.describe : Found → String
  | .null => "null"
  | .bool b => "boolean `" ++ (if b then "true" else "false") ++ "`"
  | .number (.integer i) =>
    "integer `" ++ String.ofList (Integer.sign (i < 0) ++ Integer.digits i.natAbs) ++ "`"
  | .number (.float negative m) =>
    "floating point `" ++ String.ofList (floatText (.finite negative m)) ++ "`"
  | .text s => "string " ++ Text.quoted s
  | .sequence => "sequence"
  | .map => "map"

/-- What is wrong with the content of a document. -/
inductive Mismatch
  /-- Something is found in place of something else. -/
  | wrongType (found : Found) (expected : String)
  /-- A value is no boolean, number or text. -/
  | notScalar
  /-- An entry is not there. -/
  | missingKey (key : String)
  /-- An entry is there twice. -/
  | repeatedKey (key : String)
  /-- A sequence ends before an entry that has to be there. -/
  | tooShort (length : Nat) (expected : String)
  deriving DecidableEq

/-- How a mismatch is told. -/
def Mismatch.message : Mismatch → String
  | .wrongType found expected => "invalid type: " ++ found.describe ++ ", expected " ++ expected
  | .notScalar => "data did not match any variant of untagged enum FieldValue"
  | .missingKey key => "missing field `" ++ key ++ "`"
  | .repeatedKey key => "duplicate field `" ++ key ++ "`"
  | .tooShort length expected => "invalid length " ++ toString length ++ ", expected " ++ expected

/-- What is wrong with a document. -/
inductive Problem
  /-- It is not JSON. -/
  | malformed
  /-- Its content is not what it should be. -/
  | mismatch (cause : Mismatch)
  deriving DecidableEq

/-- How a reader tells what is wrong with a document. -/
structure Telling where
  /-- What is told of a document that is not JSON. -/
  form : String → String
  /-- The line and the column that are told with the problem of a document, line zero for none. -/
  place : String → Nat × Nat

/-- How a problem with a document is told. -/
def Telling.message (telling : Telling) (document : String) (problem : Problem) : String :=
  let words := match problem with
    | .malformed => telling.form document
    | .mismatch cause => cause.message
  let (line, column) := telling.place document
  if line = 0 then words
  else words ++ " at line " ++ toString line ++ " column " ++ toString column

/-- What a token that starts a value shows to be there, if it does so without a fault. -/
def found? : Token → Option Found
  | .null => some .null
  | .bool b => some (.bool b)
  | .number n => n.value?.map .number
  | .text pieces => (joinPieces? pieces).map fun s => .text (String.ofList s)
  | .openBracket => some .sequence
  | .openBrace => some .map
  | _ => none

/-- The problem with a token where something else is expected. -/
def refuse (token : Token) (expected : String) : Problem :=
  match found? token with
  | some found => .mismatch (.wrongType found expected)
  | none => .malformed

end TypedNames.Json
