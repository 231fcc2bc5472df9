import TypedNames.Text.Word

/-!
# Patterns of tokens

A small language of patterns for the parts of a name: characters of a class, one or a number of
times, literal text, one pattern after another, and a choice of two. Each pattern has a text in
the usual notation of regular expressions, and a set of texts that it matches in full.

## Main definitions

* `CharClass` — a class of characters.
* `Pattern` — a pattern.
* `Pattern.text` — its notation.
* `Pattern.Matches` — the texts that it matches in full.
* `escaped` — a literal text in the notation.
-/

set_option autoImplicit false

namespace TypedNames

/-- A class of characters that a pattern can ask for. -/
inductive CharClass
  /-- The minus sign. -/
  | minus
  /-- An ASCII digit. -/
  | digit
  /-- A word character. -/
  | word
  deriving DecidableEq, Repr

namespace CharClass

/-- Whether a character is in the class. -/
def has : CharClass → Char → Bool
  | .minus, c => c == '-'
  | .digit, c => c.isDigit
  | .word, c => Text.isWord c

/-- The notation of the class. -/
def text : CharClass → String
  | .minus => "-"
  | .digit => "[0-9]"
  | .word => "\\w"

end CharClass

/-- The characters that have a meaning of their own in the notation. -/
def specialChars : List Char :=
  ['\\', '.', '+', '*', '?', '(', ')', '|', '[', ']', '\x7b', '\x7d', '^', '$', '#', '&', '-', '~']

/-- A literal text in the notation: a backslash before each character with a meaning of its own. -/
def escaped (literal : List Char) : String :=
  String.ofList (literal.flatMap fun c => if specialChars.contains c then ['\\', c] else [c])

/-- A pattern for a part of a name. -/
inductive Pattern
  /-- One character of the class. -/
  | one (k : CharClass)
  /-- The text itself. -/
  | literal (text : List Char)
  /-- A character of the class, or nothing. -/
  | optional (k : CharClass)
  /-- As many characters of the class as given. -/
  | exactly (k : CharClass) (count : Nat)
  /-- At least as many characters of the class as given. -/
  | atLeast (k : CharClass) (count : Nat)
  /-- At least one character of the class. -/
  | oneOrMore (k : CharClass)
  /-- One pattern and then another. -/
  | seq (p q : Pattern)
  /-- One pattern or else another. -/
  | alt (p q : Pattern)
  /-- A pattern in parentheses. -/
  | group (p : Pattern)
  deriving DecidableEq, Repr

namespace Pattern

/-- One pattern and then another, written as concatenation. -/
instance : Append Pattern := ⟨seq⟩

/-- The notation of a pattern. -/
def text : Pattern → String
  | .one k => k.text
  | .literal s => escaped s
  | .optional k => k.text ++ "?"
  | .exactly k n => k.text ++ "\x7b" ++ toString n ++ "\x7d"
  | .atLeast k n => k.text ++ "\x7b" ++ toString n ++ ",\x7d"
  | .oneOrMore k => k.text ++ "+"
  | .seq p q => p.text ++ q.text
  | .alt p q => p.text ++ "|" ++ q.text
  | .group p => "(?:" ++ p.text ++ ")"

/-- The pattern matches the text in full. -/
def Matches : Pattern → List Char → Prop
  | .one k, s => ∃ c, s = [c] ∧ k.has c
  | .literal t, s => s = t
  | .optional k, s => s = [] ∨ ∃ c, s = [c] ∧ k.has c
  | .exactly k n, s => s.length = n ∧ ∀ c ∈ s, k.has c
  | .atLeast k n, s => n ≤ s.length ∧ ∀ c ∈ s, k.has c
  | .oneOrMore k, s => 1 ≤ s.length ∧ ∀ c ∈ s, k.has c
  | .seq p q, s => ∃ u v, s = u ++ v ∧ p.Matches u ∧ q.Matches v
  | .alt p q, s => p.Matches s ∨ q.Matches s
  | .group p, s => p.Matches s

end Pattern

end TypedNames
