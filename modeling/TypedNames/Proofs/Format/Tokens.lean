import TypedNames.Proofs.Binary64.FixedText

/-!
# Tokens that are written

The tokens that each format writes, as a relation with one rule for each format, and when the
pattern of the format accepts them: always for numbers and truth values, and for a text exactly
when it fits the format.

## Main definitions

* `Value.number?` — the double precision number that a value is or equals.
* `Format.Writes` — a format writes a value as a token.
* `Format.fits` — a text fits the format; all other values do.

## Main results

* `Field.write_eq_ok_iff` — a field succeeds with the tokens that its format writes.
* `Format.matches_iff_fits` — a written token is accepted exactly when the value fits.
-/

set_option autoImplicit false

namespace TypedNames

/-- The double precision number that the value is, or that equals it if it is an integer. -/
def Value.number? : Value → Option Binary64
  | .float x => some x
  | .int n => Binary64.ofInt64? n
  | _ => none

namespace Format

/-- The format writes the value as the token. -/
inductive Writes : Format → Value → List Char → Prop
  /-- A finite number, with a point. -/
  | fixed {i d : Nat} {v : Value} {negative : Bool} {m : Binary64.Magnitude}
      (number : v.number? = some (.finite negative m)) :
      Writes (.fixed i d) v (m.fixedText negative i d)
  /-- A truth value. -/
  | bool (b : Bool) : Writes .bool (.bool b) (boolToken b)
  /-- An integer. -/
  | int (width : Option Nat) (n : Int64) : Writes (.int width) (.int n) (intToken width n)
  /-- A text. -/
  | str (padding : Option (Nat × Side)) (s : String) :
      Writes (.str padding) (.str s) (strToken padding s.toList)

/-- The value fits the format. A text without a width has to be a word, and a text with one has to
consist of word characters and not to be longer than its width. All other values fit. -/
def fits : Format → Value → Bool
  | .str none, .str s => !s.toList.isEmpty && s.toList.all Text.isWord
  | .str (some (n, _)), .str s => decide (s.toList.length ≤ n) && s.toList.all Text.isWord
  | _, _ => true

end Format

/-! ## Values of each kind -/

namespace Field

variable {f : Field}

/-- A field of truth values writes a truth value as a word. -/
theorem write_bool (h : f.format = .bool) (b : Bool) :
    f.write (.bool b) = .ok (Format.boolToken b) := by
  unfold write
  simp only [h]

/-- A field of integers writes an integer with its width. -/
theorem write_int {width : Option Nat} (h : f.format = .int width) (n : Int64) :
    f.write (.int n) = .ok (Format.intToken width n) := by
  unfold write
  simp only [h]

/-- A field of texts writes a text with its padding. -/
theorem write_str {padding : Option (Nat × Side)} (h : f.format = .str padding) (s : String) :
    f.write (.str s) = .ok (Format.strToken padding s.toList) := by
  unfold write
  simp only [h]

/-- A field of numbers in fixed-point writes a number as it is. -/
theorem write_float {i d : Nat} (h : f.format = .fixed i d) (x : Binary64) :
    f.write (.float x) = f.writeFixed i d x := by
  unfold write
  simp only [h]

/-- A field of numbers in fixed-point writes an integer as the number that equals it. -/
theorem write_equal {i d : Nat} (h : f.format = .fixed i d) {n : Int64} {x : Binary64}
    (equal : Binary64.ofInt64? n = some x) : f.write (.int n) = f.writeFixed i d x := by
  unfold write
  simp only [h, equal]

/-- A field of numbers in fixed-point refuses an integer that no number equals. -/
theorem write_inexact {i d : Nat} (h : f.format = .fixed i d) {n : Int64}
    (inexact : Binary64.ofInt64? n = none) :
    f.write (.int n) = .error (.unwritable f.name (.inexact n)) := by
  unfold write
  simp only [h, inexact]

end Field

/-- Fixed-point fields write the finite numbers. -/
theorem Field.writeFixed_eq_ok_iff {f : Field} {i d : Nat} {x : Binary64} {token : List Char} :
    f.writeFixed i d x = .ok token ↔
      ∃ negative m, x = .finite negative m ∧ m.fixedText negative i d = token := by
  constructor
  · intro h
    cases x with
    | finite negative m => exact ⟨negative, m, rfl, by simpa [Field.writeFixed] using h⟩
    | infinite negative => simp [Field.writeFixed] at h
    | nan => simp [Field.writeFixed] at h
  · rintro ⟨negative, m, rfl, rfl⟩
    rfl

/-- **A field succeeds with the tokens that its format writes, and with no others.**

**Proof sketch.** Each rule of `Format.Writes` is one of the branches of `Field.write` that can
succeed; all other pairs of a format and a value are a mismatch of kinds. -/
theorem Field.write_eq_ok_iff {f : Field} {v : Value} {token : List Char} :
    f.write v = .ok token ↔ f.format.Writes v token := by
  have number_int (n : Int64) : (Value.int n).number? = Binary64.ofInt64? n := by
    rw [Value.number?]
  unfold Field.write
  -- the conversion of integers stays closed: with its unit of `2⁻¹⁰⁷⁴` it is too much to unfold
  obtain ⟨convert, hconvert⟩ : ∃ convert, convert = Binary64.ofInt64? := ⟨_, rfl⟩
  rw [← hconvert] at number_int ⊢
  generalize f.format = format
  constructor
  · intro h
    split at h
    · obtain ⟨negative, m, rfl, rfl⟩ := Field.writeFixed_eq_ok_iff.1 h
      exact .fixed rfl
    · next n =>
      split at h
      · next x hx =>
        obtain ⟨negative, m, rfl, rfl⟩ := Field.writeFixed_eq_ok_iff.1 h
        exact .fixed (by rw [number_int, hx])
      · simp at h
    · cases h
      exact .bool _
    · cases h
      exact .int _ _
    · cases h
      exact .str _ _
    · simp at h
  · intro h
    cases h with
    | @fixed i d v negative m number =>
      cases v with
      | float x =>
        have hx : x = .finite negative m := by simpa [Value.number?] using number
        subst hx
        exact Field.writeFixed_eq_ok_iff.2 ⟨negative, m, rfl, rfl⟩
      | int n =>
        rw [number_int] at number
        simp only [number]
        exact Field.writeFixed_eq_ok_iff.2 ⟨negative, m, rfl, rfl⟩
      | bool b => simp [Value.number?] at number
      | str s => simp [Value.number?] at number
    | bool b => rfl
    | int width n => rfl
    | str padding s => rfl

/-! ## Written tokens and patterns -/

namespace Format

/-- A fixed-point token is accepted. -/
theorem matches_fixedText {i d : Nat} (pos : 1 ≤ d) (negative : Bool) (m : Binary64.Magnitude) :
    (Format.fixed i d).pattern.Matches (m.fixedText negative i d) := by
  rw [matches_fixed_iff, m.fixedText_eq pos]
  refine ⟨Integer.sign (negative && m.toPlaces d != 0), _, _, rfl, isSign_sign _, ⟨?_, ?_⟩, ?_, ?_⟩
  · rw [Integer.length_leftpad_digits]
    omega
  · exact Integer.isDigits_leftpad_digits _ _
  · exact Integer.length_leftpad_digits_mod pos _
  · exact Integer.isDigits_leftpad_digits _ _

/-- The token of a truth value is accepted. -/
theorem matches_boolToken (b : Bool) : Format.bool.pattern.Matches (boolToken b) := by
  rw [matches_bool_iff]
  cases b
  · exact .inr rfl
  · exact .inl rfl

/-- The token of an integer is accepted: what the sign takes from the padding it gives back to the
least number of digits of a negative token. -/
theorem matches_intToken (width : Option Nat) (n : Int64) :
    (Format.int width).pattern.Matches (intToken width n) := by
  have hone : 1 ≤ (Integer.digits n.toInt.natAbs).length := Integer.one_le_length_digits _
  cases width with
  | none =>
    refine matches_int_iff.2 ⟨_, _, rfl, isSign_sign _, ?_, Integer.isDigits_leftpad_digits _ _⟩
    rw [Integer.length_leftpad_digits]
    omega
  | some w =>
    refine matches_sizedInt_iff.2 ⟨_, _, rfl, Integer.isDigits_leftpad_digits _ _, ?_⟩
    rw [Integer.length_leftpad_digits]
    by_cases hneg : n.toInt < 0
    · left
      simp only [hneg, decide_true, Integer.sign, if_true, Option.getD_some, List.length_cons,
        List.length_nil, true_and]
      omega
    · right
      simp only [hneg, decide_false, Integer.sign, Bool.false_eq_true, if_false, Option.getD_some,
        List.length_nil, true_and]
      omega

/-- A padded text is as long as the width, or longer if the text is. -/
theorem length_strToken (n : Nat) (side : Side) (s : List Char) :
    (strToken (some (n, side)) s).length = max n s.length := by
  cases side
  · exact List.length_leftpad
  · exact List.length_rightpad

/-- The characters of a padded text are those of the text and zeros. -/
theorem mem_strToken_iff {n : Nat} {side : Side} {s : List Char} {c : Char} :
    c ∈ strToken (some (n, side)) s ↔ c ∈ s ∨ (c = '0' ∧ s.length < n) := by
  cases side
  · simp only [strToken, List.leftpad, List.mem_append, List.mem_replicate, ne_eq,
      Nat.sub_eq_zero_iff_le, Nat.not_le]
    rw [or_comm]
    exact or_congr_right and_comm
  · simp only [strToken, List.rightpad, List.mem_append, List.mem_replicate, ne_eq,
      Nat.sub_eq_zero_iff_le, Nat.not_le]
    exact or_congr_right and_comm

/-- The token of a text is accepted exactly when the text fits. -/
theorem matches_strToken_iff (padding : Option (Nat × Side)) (s : String) :
    (Format.str padding).pattern.Matches (strToken padding s.toList) ↔
      (Format.str padding).fits (.str s) = true := by
  rcases padding with _ | ⟨n, side⟩
  · rw [matches_str_iff]
    simp [strToken, fits]
  · rw [matches_sizedStr_iff, length_strToken]
    simp only [fits, Bool.and_eq_true, decide_eq_true_eq, List.all_eq_true, mem_strToken_iff]
    constructor
    · rintro ⟨hlen, hword⟩
      exact ⟨by omega, fun c hc => hword c (.inl hc)⟩
    · rintro ⟨hlen, hword⟩
      refine ⟨by omega, ?_⟩
      rintro c (hc | ⟨rfl, -⟩)
      · exact hword c hc
      · exact Text.isWord_of_isDigit (by decide)

/-- **A written token is accepted by the pattern of its format exactly when the value fits.**

**Proof sketch.** By the rule with which it was written: numbers and truth values are accepted
whatever they are, and for texts this is `matches_strToken_iff`. -/
theorem matches_iff_fits {format : Format} {v : Value} {token : List Char}
    (range : format.InRange) (h : format.Writes v token) :
    format.pattern.Matches token ↔ format.fits v = true := by
  cases h with
  | fixed number => exact iff_of_true (matches_fixedText range.2.1 _ _) rfl
  | bool b => exact iff_of_true (matches_boolToken b) rfl
  | int width n =>
    apply iff_of_true (matches_intToken width n)
    cases width <;> rfl
  | str padding s => exact matches_strToken_iff padding s

end Format

end TypedNames
