import TypedNames.Format.Basic
import TypedNames.Integer

/-!
# Specifiers

A specifier is the short text by which a schema names a format:

* `fp` `I` `.` `F` — a number with at least `I` digits in front of the point and `F` behind;
* `bool` — a truth value;
* `int`, `N` `int` — an integer, padded to `N` characters;
* `str`, `N` `str`, `str` `N` — a text, padded to `N` characters in front or behind.

Widths are decimal numbers from 1 to 255. The first of the keywords `fp`, `bool`, `int` and `str`
that occurs anywhere in the text decides which form is expected, and so which fault is told.

## Main definitions

* `Format.parse` — the format that a specifier names.
* `SpecFault` — why a text is no specifier.
* `readWidth` — the width that digits denote.
-/

set_option autoImplicit false

namespace TypedNames

/-- Why a text is not a specifier. -/
inductive SpecFault
  /-- No keyword occurs in it. -/
  | noKeyword
  /-- It has not the form of a fixed-point specifier. -/
  | notFixed
  /-- It is not the specifier of a truth value. -/
  | notBool
  /-- It has not the form of an integer specifier. -/
  | notInt
  /-- It has not the form of a text specifier. -/
  | notStr
  /-- A width is not written in digits. -/
  | badWidth (text : String)
  /-- A width does not fit into 64 bits. -/
  | hugeWidth
  /-- A width is zero. -/
  | zeroWidth
  /-- A width is above the largest one. -/
  | wideWidth
  deriving DecidableEq, Repr

/-- The largest width or number of digits. -/
def maxWidth : Nat := 255

/-- How the fault is told. -/
def SpecFault.message : SpecFault → String
  | .noKeyword => "expected one of fp<I>.<F>, bool, int, <N>int, str, <N>str, str<N>"
  | .notFixed => "expected fp<I>.<F>"
  | .notBool => "expected bool"
  | .notInt => "expected int or <N>int"
  | .notStr => "expected str, <N>str or str<N>"
  | .badWidth text => "'" ++ text ++ "' is not a positive integer"
  | .hugeWidth => "number too large to fit in target type"
  | .zeroWidth => "widths must be at least 1"
  | .wideWidth => "widths must be at most " ++ toString maxWidth

/-- Whether `word` occurs somewhere in the text. -/
def occursIn (word : List Char) : List Char → Bool
  | [] => word.isEmpty
  | c :: rest => word.isPrefixOf (c :: rest) || occursIn word rest

/-- The width that a run of digits denotes. -/
def readWidth (text : List Char) : Except SpecFault Nat :=
  if text.isEmpty || !text.all Char.isDigit then .error (.badWidth (String.ofList text))
  else if Integer.wordRange ≤ Integer.ofDigits text then .error .hugeWidth
  else if Integer.ofDigits text = 0 then .error .zeroWidth
  else if maxWidth < Integer.ofDigits text then .error .wideWidth
  else .ok (Integer.ofDigits text)

namespace Format

/-- The fixed-point format that a specifier names. -/
def parseFixed (spec : List Char) : Except SpecFault Format :=
  match spec with
  | 'f' :: 'p' :: rest =>
    if '.' ∈ rest then do
      let intDigits ← readWidth (rest.takeWhile (· != '.'))
      let fracDigits ← readWidth (rest.dropWhile (· != '.')).tail
      return .fixed intDigits fracDigits
    else .error .notFixed
  | _ => .error .notFixed

/-- The format of truth values, if the specifier names it. -/
def parseBool (spec : List Char) : Except SpecFault Format :=
  if spec = ['b', 'o', 'o', 'l'] then .ok .bool else .error .notBool

/-- The integer format that a specifier names. -/
def parseInt (spec : List Char) : Except SpecFault Format :=
  if spec = ['i', 'n', 't'] then .ok (.int none)
  else match ['i', 'n', 't'].isSuffixOf? spec with
    | some width => (readWidth width).map fun n => .int (some n)
    | none => .error .notInt

/-- The text format that a specifier names; a keyword at the front is taken first. -/
def parseStr (spec : List Char) : Except SpecFault Format :=
  if spec = ['s', 't', 'r'] then .ok (.str none)
  else match ['s', 't', 'r'].isPrefixOf? spec with
    | some width => (readWidth width).map fun n => .str (some (n, .back))
    | none => match ['s', 't', 'r'].isSuffixOf? spec with
      | some width => (readWidth width).map fun n => .str (some (n, .front))
      | none => .error .notStr

/-- The format that the characters of a specifier name. -/
def parseChars (spec : List Char) : Except SpecFault Format :=
  if occursIn ['f', 'p'] spec then parseFixed spec
  else if occursIn ['b', 'o', 'o', 'l'] spec then parseBool spec
  else if occursIn ['i', 'n', 't'] spec then parseInt spec
  else if occursIn ['s', 't', 'r'] spec then parseStr spec
  else .error .noKeyword

/-- The format that a specifier names. -/
def parse (spec : String) : Except SpecFault Format :=
  parseChars spec.toList

end Format

end TypedNames
