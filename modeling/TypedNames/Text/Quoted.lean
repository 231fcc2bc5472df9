import TypedNames.Text.Printable

/-!
# Quoted texts

How a message shows a text that it found: between double quotes, with a backslash before quotes
and backslashes, short escapes for the common controls, and the code point in braces for every
other character that would not show.

## Main definitions

* `quoted` — a text between double quotes.
* `quotedChar` — how one character of it is written.
-/

set_option autoImplicit false

namespace TypedNames.Text

/-- A character as it stands in a quoted text. -/
def quotedChar (c : Char) : List Char :=
  match c with
  | '\x00' => ['\\', '0']
  | '\t' => ['\\', 't']
  | '\n' => ['\\', 'n']
  | '\r' => ['\\', 'r']
  | '"' => ['\\', '"']
  | '\\' => ['\\', '\\']
  | _ => if isPrintable c then [c] else ['\\', 'u', '\x7b'] ++ Nat.toDigits 16 c.toNat ++ ['\x7d']

/-- A text between double quotes, with escapes for what would not show. -/
def quoted (text : String) : String :=
  String.ofList ('"' :: text.toList.flatMap quotedChar ++ ['"'])

end TypedNames.Text
