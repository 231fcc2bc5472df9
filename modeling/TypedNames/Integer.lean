/-!
# Integers of 64 bits in decimal

Reading and writing the integers from `-2⁶³` to `2⁶³ - 1`.

A numeral is an optional sign and at least one ASCII digit; leading zeros are allowed. Its
characters are looked at from the left, and the first one that spoils it decides the fault: a
character that is no digit, or a digit with which the number leaves the range.

## Main definitions

* `Integer.digits` — the decimal digits of a natural number.
* `Integer.text` — the numeral of an integer, with no more digits than needed.
* `Integer.parse` — the integer that a numeral denotes.
* `Integer.Fault` — why a text is no numeral of the range.
-/

set_option autoImplicit false

namespace TypedNames.Integer

/-- The number of integers of 64 bits of one sign, `2⁶³`. -/
abbrev halfRange : Nat := 0x8000000000000000

/-- The number of integers of 64 bits, `2⁶⁴`. -/
abbrev wordRange : Nat := 0x10000000000000000

/-- The decimal digits of a natural number, without leading zeros. -/
def digits (n : Nat) : List Char :=
  Nat.toDigits 10 n

/-- The natural number that a run of decimal digits denotes. -/
def ofDigits (text : List Char) : Nat :=
  Nat.ofDigitChars 10 text 0

/-- The sign that a numeral starts with. -/
def sign (negative : Bool) : List Char :=
  if negative then ['-'] else []

/-- The numeral of an integer: a sign if it is negative, then its digits. -/
def text (i : Int64) : List Char :=
  sign (i.toInt < 0) ++ digits i.toInt.natAbs

/-- Why a text is not the numeral of an integer in the range. -/
inductive Fault
  /-- There is no text. -/
  | empty
  /-- A character is no digit, or there is only a sign. -/
  | badDigit
  /-- The number is above `2⁶³ - 1`. -/
  | tooLarge
  /-- The number is below `-2⁶³`. -/
  | tooSmall
  deriving DecidableEq, Repr

/-- How the fault is told. -/
def Fault.message : Fault → String
  | .empty => "cannot parse integer from empty string"
  | .badDigit => "invalid digit found in string"
  | .tooLarge => "number too large to fit in target type"
  | .tooSmall => "number too small to fit in target type"

/-- The value of the digits `text` after those that denote `start`, as long as it stays at or
below `limit`; else the first fault, which is `excess` where the limit is passed. -/
def readUpTo (limit : Nat) (excess : Fault) : Nat → List Char → Except Fault Nat
  | start, [] => .ok start
  | start, c :: rest =>
    if c.isDigit then
      if 10 * start + (c.toNat - '0'.toNat) ≤ limit then
        readUpTo limit excess (10 * start + (c.toNat - '0'.toNat)) rest
      else .error excess
    else .error .badDigit

/-- The integer that a numeral denotes. -/
def parse : List Char → Except Fault Int64
  | [] => .error .empty
  | ['-'] | ['+'] => .error .badDigit
  | '-' :: rest => (readUpTo halfRange .tooSmall 0 rest).map fun n => Int64.ofInt (-n)
  | '+' :: rest => (readUpTo (halfRange - 1) .tooLarge 0 rest).map fun n => Int64.ofInt n
  | rest => (readUpTo (halfRange - 1) .tooLarge 0 rest).map fun n => Int64.ofInt n

/-- The digits of a number are digits. -/
theorem isDigit_of_mem_digits {n : Nat} {c : Char} (h : c ∈ digits n) : c.isDigit = true :=
  Nat.isDigit_of_mem_toDigits (by decide) (by decide) h

/-- The digits of a number denote it. -/
theorem ofDigits_digits (n : Nat) : ofDigits (digits n) = n := by
  simp [ofDigits, digits]

/-- Further digits do not make a number smaller. -/
theorem le_ofDigitChars (text : List Char) (start : Nat) :
    start ≤ Nat.ofDigitChars 10 text start := by
  induction text generalizing start with
  | nil => simp
  | cons c rest ih =>
    rw [Nat.ofDigitChars_cons]
    exact Nat.le_trans (by omega) (ih _)

/-- Digits that denote a number within the limit are read as that number. -/
theorem readUpTo_eq_ok {limit : Nat} {excess : Fault} {text : List Char} {start : Nat}
    (digit : ∀ c ∈ text, c.isDigit = true) (le : Nat.ofDigitChars 10 text start ≤ limit) :
    readUpTo limit excess start text = .ok (Nat.ofDigitChars 10 text start) := by
  induction text generalizing start with
  | nil => simp [readUpTo]
  | cons c rest ih =>
    have hc : c.isDigit = true := digit c List.mem_cons_self
    rw [Nat.ofDigitChars_cons] at le ⊢
    have h := Nat.le_trans (le_ofDigitChars rest _) le
    rw [readUpTo, if_pos hc, if_pos h]
    exact ih (fun d hd => digit d (List.mem_cons_of_mem c hd)) le

end TypedNames.Integer
