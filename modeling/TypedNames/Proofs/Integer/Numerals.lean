import TypedNames.Proofs.Format.Reading

/-!
# Numerals

The integer that a numeral denotes, whether it has 64 bits or not, and what this says about the
tokens of integer formats: each of them is the numeral of one integer. It is read as this integer if
it lies in the range, whatever zeros stand in front and also if it is a zero with a minus sign;
otherwise the fault says on which side of the range it lies. No numeral is shorter than the text of
its integer.

## Main definitions

* `Integer.Denotes` — a numeral denotes an integer.
* `Integer.InRange` — an integer has 64 bits.
* `Integer.beyond` — how an integer that has not is told.

## Main results

* `Format.exists_denotes` — a token of an integer format denotes an integer.
* `Format.read_of_denotes` — what it is read as.
* `Integer.length_text_le_of_denotes` — the text of an integer is its shortest numeral.
-/

set_option autoImplicit false

namespace TypedNames

namespace Integer

/-- **The numeral denotes the integer**: at least one digit, with a minus in front or not. -/
inductive Denotes : List Char → Int → Prop
  /-- Digits denote a number. -/
  | digits {whole : List Char} (ne : whole ≠ []) (digits : IsDigits whole) :
    Denotes whole (ofDigits whole)
  /-- A minus and digits denote the negated number, which may be zero. -/
  | minus {whole : List Char} (ne : whole ≠ []) (digits : IsDigits whole) :
    Denotes ('-' :: whole) (-ofDigits whole)

/-- The integer has 64 bits. -/
def InRange (n : Int) : Prop :=
  -2 ^ 63 ≤ n ∧ n < 2 ^ 63

instance (n : Int) : Decidable (InRange n) :=
  inferInstanceAs (Decidable (_ ∧ _))

/-- How an integer is told that does not have 64 bits. -/
def beyond (n : Int) : Fault :=
  if n < 0 then .tooSmall else .tooLarge

variable {text : List Char} {m n : Int}

/-- A numeral denotes the number of its digits, with its sign. -/
theorem Denotes.eq_signed (h : Denotes text n) :
    n = signed (Format.isNegative text) (Format.number text) := by
  cases h with
  | digits ne digits =>
    have hnegative : Format.isNegative text = false := by
      simpa [Format.isNegative] using digits.notMem (show '-'.isDigit = false by decide)
    rw [hnegative, Format.number, List.filter_eq_self.2 digits]
    rfl
  | @minus whole ne digits =>
    have hnegative : Format.isNegative ('-' :: whole) = true := by
      simp [Format.isNegative]
    rw [hnegative, Format.number, List.filter_cons_of_neg (by decide),
      List.filter_eq_self.2 digits]
    rfl

/-- A numeral denotes one integer. -/
theorem Denotes.unique (h : Denotes text m) (h' : Denotes text n) : m = n :=
  h.eq_signed.trans h'.eq_signed.symm

/-- An integer has 64 bits exactly if its magnitude is within the limit for its sign. -/
theorem inRange_signed_iff (negative : Bool) (k : Nat) :
    InRange (signed negative k) ↔ k ≤ limit negative := by
  cases negative
  · simp only [InRange, signed, limit, halfRange, Bool.false_eq_true, if_false]
    omega
  · simp only [InRange, signed, limit, halfRange, if_true]
    omega

/-- Beyond the limit the sign of an integer is that of its numeral. -/
theorem beyond_signed {negative : Bool} {k : Nat} (h : ¬ InRange (signed negative k)) :
    beyond (signed negative k) = excess negative := by
  rw [inRange_signed_iff, Nat.not_le] at h
  cases negative
  · have hsign : ¬ signed false k < 0 := by simp [signed]
    rw [beyond, if_neg hsign]
    rfl
  · have hsign : signed true k < 0 := by
      simp only [signed, limit, halfRange, if_true] at h ⊢
      omega
    rw [beyond, if_pos hsign]
    rfl

/-- A run of digits is as long as the digits of its number, or longer. -/
theorem length_digits_le {whole : List Char} (ne : whole ≠ []) (digits : IsDigits whole) :
    (Integer.digits (ofDigits whole)).length ≤ whole.length :=
  (Nat.length_toDigits_le_iff (by decide) (List.length_pos_iff.2 ne)).2 (ofDigits_lt digits)

/-- **The text of an integer is its shortest numeral.** -/
theorem length_text_le_of_denotes {i : Int64} (h : Denotes text i.toInt) :
    (Integer.text i).length ≤ text.length := by
  generalize hvalue : i.toInt = n at h
  rw [Integer.text, hvalue, List.length_append]
  cases h with
  | digits ne digits =>
    have hle := length_digits_le ne digits
    have hsign : (decide ((ofDigits text : Int) < 0)) = false := by simp
    rw [hsign]
    simpa [sign] using hle
  | @minus whole ne digits =>
    have hle := length_digits_le ne digits
    have hsign (b : Bool) : (sign b).length ≤ 1 := by cases b <;> decide
    have hone := hsign (decide (-(ofDigits whole : Int) < 0))
    rw [Int.natAbs_neg, Int.natAbs_natCast, List.length_cons]
    omega

end Integer

namespace Format

variable {width : Option Nat} {token : List Char} {n : Int}

/-- **A token of an integer format denotes an integer.** -/
theorem exists_denotes (range : (Format.int width).InRange)
    (h : (Format.int width).pattern.Matches token) : ∃ n, Integer.Denotes token n := by
  obtain ⟨sign, whole, rfl, rfl | rfl, hne, hwhole⟩ := exists_numeral_of_matches_int range h
  · exact ⟨_, .digits hne hwhole⟩
  · exact ⟨_, .minus hne hwhole⟩

/-- A token is out of range exactly if its integer is. -/
theorem outOfRange_iff_of_denotes (h : Integer.Denotes token n) :
    (Format.int width).outOfRange token = true ↔ ¬ Integer.InRange n := by
  rw [h.eq_signed, Integer.inRange_signed_iff, Nat.not_le, outOfRange, decide_eq_true_eq]

/-- **A token of an integer format is read as the integer that it denotes**, or as the fault for the
side on which this lies out of range. -/
theorem read_of_denotes (range : (Format.int width).InRange)
    (hmatches : (Format.int width).pattern.Matches token) (h : Integer.Denotes token n) :
    (Format.int width).read token =
      if Integer.InRange n then .ok (.int (Int64.ofInt n))
      else .error (.int (Integer.beyond n)) := by
  rw [read_int range hmatches]
  by_cases hrange : Integer.InRange n
  · rw [if_neg (fun hout => (outOfRange_iff_of_denotes h).1 hout hrange), if_pos hrange,
      ← h.eq_signed]
  · rw [if_pos ((outOfRange_iff_of_denotes h).2 hrange), if_neg hrange]
    rw [h.eq_signed] at hrange ⊢
    rw [Integer.beyond_signed hrange]

end Format

end TypedNames
