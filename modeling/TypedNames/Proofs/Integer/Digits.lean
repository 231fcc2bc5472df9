import Mathlib.Algebra.Group.Nat.Defs
import TypedNames.Proofs.Format.Shapes

/-!
# Digits of natural numbers

The digits of a number denote it, are as many as its size says, and start with a zero only if the
number is zero. A run of digits denotes a number below the power of ten with as many zeros as it has
digits, and runs of one length that denote the same number are the same.

## Main results

* `Integer.ofDigits_lt` — the number that a run of digits denotes is not too large for it.
* `Integer.ofDigits_inj` — runs of one length that denote the same number are the same.
* `Integer.lt_ten_pow_length_digits`, `Integer.ten_pow_le_of_ne_zero` — a number has as many digits
  as its size says.
* `Integer.digits_eq_zero_of_head?` — no zero stands in front of other digits of a number.
* `Integer.ofDigits_leftpad_digits` — zeros in front do not change the number that digits denote.
-/

set_option autoImplicit false

namespace TypedNames.Integer

/-! ## Runs of digits -/

/-- The number that digits denote after a first digit. -/
theorem ofDigits_cons (c : Char) (rest : List Char) :
    ofDigits (c :: rest) = 10 ^ rest.length * (c.toNat - '0'.toNat) + ofDigits rest := by
  rw [ofDigits, Nat.ofDigitChars_cons, Nat.ofDigitChars_eq_ofDigitChars_zero, ofDigits]
  simp

/-- Zeros in front of digits do not change the number. -/
theorem ofDigits_dropWhile_zero (text : List Char) :
    ofDigits (text.dropWhile (· == '0')) = ofDigits text := by
  induction text with
  | nil => rfl
  | cons c rest ih =>
    by_cases h : c = '0'
    · subst h
      rw [List.dropWhile_cons_of_pos (by decide), ih, ofDigits_cons]
      simp
    · rw [List.dropWhile_cons_of_neg (by simpa using h)]

/-- A digit lies between zero and nine. -/
theorem bounds_of_isDigit {c : Char} (h : c.isDigit = true) :
    '0'.toNat ≤ c.toNat ∧ c.toNat - '0'.toNat ≤ 9 := by
  simp only [Char.isDigit, Bool.and_eq_true, decide_eq_true_eq, ge_iff_le,
    UInt32.le_iff_toNat_le] at h
  exact ⟨h.1, Nat.sub_le_sub_right h.2 48⟩

/-- Digits without a zero in front denote a number of as many digits. -/
theorem le_ofDigits_of_ne_zero {c : Char} {rest : List Char} (digit : c.isDigit = true)
    (ne : c ≠ '0') : 10 ^ rest.length ≤ ofDigits (c :: rest) := by
  have hpos : 1 ≤ c.toNat - '0'.toNat := by
    have hle : '0'.toNat ≤ c.toNat := (bounds_of_isDigit digit).1
    have hne : c.toNat ≠ '0'.toNat := fun e => ne (Char.toNat_inj.1 e)
    omega
  rw [ofDigits_cons]
  calc 10 ^ rest.length = 10 ^ rest.length * 1 := (Nat.mul_one _).symm
    _ ≤ 10 ^ rest.length * (c.toNat - '0'.toNat) := Nat.mul_le_mul_left _ hpos
    _ ≤ _ := Nat.le_add_right _ _

/-- The digits of a run denote less than the power of ten with as many zeros. -/
theorem ofDigits_lt {text : List Char} (h : IsDigits text) : ofDigits text < 10 ^ text.length := by
  induction text with
  | nil => decide
  | cons c rest ih =>
    have hrest := ih fun d hd => h d (List.mem_cons_of_mem c hd)
    have hdigit : c.toNat - '0'.toNat ≤ 9 := (bounds_of_isDigit (h c List.mem_cons_self)).2
    rw [ofDigits_cons, List.length_cons, Nat.pow_succ]
    calc 10 ^ rest.length * (c.toNat - '0'.toNat) + ofDigits rest
        < 10 ^ rest.length * (c.toNat - '0'.toNat) + 10 ^ rest.length := Nat.add_lt_add_left hrest _
      _ = 10 ^ rest.length * (c.toNat - '0'.toNat + 1) := by rw [Nat.mul_add, Nat.mul_one]
      _ ≤ 10 ^ rest.length * 10 := Nat.mul_le_mul_left _ (Nat.succ_le_succ hdigit)

/-- The number that digits denote, when they are followed by others. -/
theorem ofDigits_append (text rest : List Char) :
    ofDigits (text ++ rest) = 10 ^ rest.length * ofDigits text + ofDigits rest := by
  rw [ofDigits, Nat.ofDigitChars_append, Nat.ofDigitChars_eq_ofDigitChars_zero, ofDigits, ofDigits]

/-- **Runs of digits of one length that denote the same number are the same.** -/
theorem ofDigits_inj {text other : List Char} (h : IsDigits text) (h' : IsDigits other)
    (length : text.length = other.length) (value : ofDigits text = ofDigits other) :
    text = other := by
  induction text generalizing other with
  | nil => exact (List.eq_nil_of_length_eq_zero length.symm).symm
  | cons c rest ih =>
    obtain ⟨d, more, rfl⟩ := List.exists_cons_of_length_eq_add_one length.symm
    have hlength : rest.length = more.length := Nat.succ.inj length
    have hrest : IsDigits rest := fun a ha => h a (List.mem_cons_of_mem c ha)
    have hmore : IsDigits more := fun a ha => h' a (List.mem_cons_of_mem d ha)
    rw [ofDigits_cons, ofDigits_cons, hlength] at value
    have hlow : ofDigits rest < 10 ^ more.length := hlength ▸ ofDigits_lt hrest
    have hdigit : c.toNat - '0'.toNat = d.toNat - '0'.toNat := by
      have hdiv := congrArg (· / 10 ^ more.length) value
      simpa only [Nat.mul_add_div (Nat.pow_pos (by decide : 0 < 10)), Nat.div_eq_of_lt hlow,
        Nat.div_eq_of_lt (ofDigits_lt hmore), Nat.add_zero] using hdiv
    have hc := (bounds_of_isDigit (h c List.mem_cons_self)).1
    have hd := (bounds_of_isDigit (h' d List.mem_cons_self)).1
    have hcd : c = d := Char.toNat_inj.1 (by omega)
    subst hcd
    rw [ih hrest hmore hlength (Nat.add_left_cancel value)]

/-! ## The digits of a number -/

/-- A number has at least one digit. -/
theorem one_le_length_digits (n : Nat) : 1 ≤ (digits n).length :=
  Nat.length_toDigits_pos

/-- Digits with zeros in front are as long as the width, or longer if the number is. -/
theorem length_leftpad_digits (width n : Nat) :
    ((digits n).leftpad width '0').length = max width (digits n).length :=
  List.length_leftpad

/-- Digits with zeros in front are digits. -/
theorem isDigits_leftpad_digits (width n : Nat) : IsDigits ((digits n).leftpad width '0') := by
  intro c hc
  rw [List.leftpad, List.mem_append] at hc
  rcases hc with hc | hc
  · rw [List.eq_of_mem_replicate hc]
    decide
  · exact isDigit_of_mem_digits hc

/-- Zeros in front do not change the number that digits denote. -/
theorem ofDigits_leftpad_digits (width n : Nat) :
    ofDigits ((digits n).leftpad width '0') = n := by
  rw [ofDigits, List.leftpad, Nat.ofDigitChars_append, Nat.ofDigitChars_replicate_zero,
    Nat.mul_zero]
  exact ofDigits_digits n

/-- The digits behind a point are as many as there are places. -/
theorem length_leftpad_digits_mod {places : Nat} (pos : 1 ≤ places) (n : Nat) :
    ((digits (n % Nat.pow 10 places)).leftpad places '0').length = places := by
  have hlt : n % Nat.pow 10 places < 10 ^ places := Nat.mod_lt _ (Nat.pow_pos (by decide))
  have hle : (digits (n % Nat.pow 10 places)).length ≤ places :=
    (Nat.length_toDigits_le_iff (by decide) pos).2 hlt
  rw [length_leftpad_digits]
  omega

/-- A number is below the power of ten with as many zeros as it has digits. -/
theorem lt_ten_pow_length_digits (n : Nat) : n < 10 ^ (digits n).length :=
  (Nat.length_toDigits_le_iff (by decide) (one_le_length_digits n)).1 (Nat.le_refl _)

/-- A number other than zero reaches the power of ten with one zero less. -/
theorem ten_pow_le_of_ne_zero {n : Nat} (ne : n ≠ 0) : 10 ^ ((digits n).length - 1) ≤ n := by
  rcases Nat.eq_zero_or_pos ((digits n).length - 1) with h | h
  · rw [h, Nat.pow_zero]
    exact Nat.one_le_iff_ne_zero.2 ne
  · rw [← Nat.not_lt, ← Nat.length_toDigits_le_iff (by decide) h]
    change ¬ (digits n).length ≤ _
    omega

/-- Digits are digits. -/
theorem isDigits_digits (n : Nat) : IsDigits (digits n) :=
  fun _ hc => isDigit_of_mem_digits hc

/-- A number has a digit. -/
theorem digits_ne_nil (n : Nat) : digits n ≠ [] :=
  Nat.toDigits_ne_nil

/-- The first digit of a number other than zero is not a zero. -/
theorem head?_digits_ne_zero {n : Nat} (ne : n ≠ 0) : (digits n).head? ≠ some '0' := by
  intro hzero
  have hle := ten_pow_le_of_ne_zero ne
  have hvalue := ofDigits_digits n
  have hdigits := isDigits_digits n
  generalize digits n = text at hzero hle hvalue hdigits
  cases text with
  | nil => simp at hzero
  | cons c rest =>
    obtain rfl : c = '0' := by simpa using hzero
    have hlt : ofDigits rest < 10 ^ rest.length :=
      ofDigits_lt fun d hd => hdigits d (List.mem_cons_of_mem _ hd)
    rw [ofDigits_cons] at hvalue
    simp only [List.length_cons, Nat.add_sub_cancel, Nat.sub_self, Nat.mul_zero, Nat.zero_add]
      at hle hvalue
    omega

/-- No zero stands in front of other digits of a number. -/
theorem digits_eq_zero_of_head? {n : Nat} (h : (digits n).head? = some '0') : digits n = ['0'] := by
  rcases Nat.eq_zero_or_pos n with rfl | hpos
  · rfl
  · exact absurd h (head?_digits_ne_zero (Nat.ne_of_gt hpos))

end TypedNames.Integer
