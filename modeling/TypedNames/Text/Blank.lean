/-!
# White space and lines

A text is cut into lines at its line feeds, and a line is trimmed of the characters with the
Unicode property `White_Space`, twenty-five in all.

## Main definitions

* `isBlank` — white space.
* `trimFront`, `trimBack`, `trim` — a text without the white space at one end or both.
* `splitAt` — the parts of a text between the occurrences of a character.

## Main results

* `intercalate_splitAt` — the parts with another text between them.
-/

set_option autoImplicit false

namespace TypedNames.Text

/-- The closed ranges of code points that are white space. -/
def blankRanges : List (Nat × Nat) := [
  (0x9, 0xD), (0x20, 0x20), (0x85, 0x85), (0xA0, 0xA0), (0x1680, 0x1680), (0x2000, 0x200A),
  (0x2028, 0x2029), (0x202F, 0x202F), (0x205F, 0x205F), (0x3000, 0x3000)]

/-- Whether `c` is white space. -/
def isBlank (c : Char) : Bool :=
  blankRanges.any fun range => range.1 ≤ c.toNat && c.toNat ≤ range.2

/-- The text from its first character that is not white space on. -/
def trimFront (text : List Char) : List Char :=
  text.dropWhile isBlank

/-- The text up to its last character that is not white space. -/
def trimBack (text : List Char) : List Char :=
  (trimFront text.reverse).reverse

/-- The text without the white space at its two ends. -/
def trim (text : List Char) : List Char :=
  trimBack (trimFront text)

/-- The parts of a text between the occurrences of `mark`, one more than there are occurrences. -/
def splitAt (mark : Char) : List Char → List (List Char)
  | [] => [[]]
  | c :: rest =>
    if c = mark then [] :: splitAt mark rest
    else match splitAt mark rest with
      | [] => [[c]]
      | part :: parts => (c :: part) :: parts

/-- There is always at least one part. -/
theorem splitAt_ne_nil (mark : Char) (text : List Char) : splitAt mark text ≠ [] := by
  cases text with
  | nil => simp [splitAt]
  | cons c rest =>
    rw [splitAt]
    split
    · simp
    · split <;> simp

/-- Parts joined by another text: this text stands in the place of each mark. -/
theorem intercalate_splitAt (mark : Char) (between text : List Char) :
    between.intercalate (splitAt mark text) =
      text.flatMap fun c => if c = mark then between else [c] := by
  induction text with
  | nil => rfl
  | cons c rest ih =>
    rw [splitAt, List.flatMap_cons, ← ih]
    cases hs : splitAt mark rest with
    | nil => exact absurd hs (splitAt_ne_nil mark rest)
    | cons part parts =>
      split
      · rw [List.intercalate_cons_cons]
        rfl
      · cases parts <;> simp [List.intercalate]

end TypedNames.Text
