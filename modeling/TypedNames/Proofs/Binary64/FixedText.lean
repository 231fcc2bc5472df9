import TypedNames.Binary64.Fixed
import TypedNames.Proofs.Integer.Digits

/-!
# The parts of a fixed-point text

The text of a number in fixed-point is made by looking at characters: where the point is, and
whether some digit is not a zero. Both can be told from the rounded number: the point stands behind
the digits of the integer part, and all digits are zeros exactly if the number was rounded to zero.

## Main results

* `Binary64.Magnitude.ofDigits_pointDigits` — the digits around the point denote the number.
* `Binary64.Magnitude.fixedText_eq` — sign and padding of a fixed-point text.
-/

set_option autoImplicit false

namespace TypedNames.Binary64.Magnitude

variable {places : Nat}

/-! ## Digits other than zero -/

/-- Up to nine, the digits other than zero are the characters of a positive value. -/
theorem isNonzeroDigit_iff {c : Char} (digit : c.isDigit = true) :
    isNonzeroDigit c = true ↔ c.toNat - '0'.toNat ≠ 0 := by
  obtain ⟨low, high⟩ := Integer.bounds_of_isDigit digit
  have hbounds : isNonzeroDigit c = true ↔ 49 ≤ c.toNat ∧ c.toNat ≤ 57 := by
    rw [isNonzeroDigit, Bool.and_eq_true, decide_eq_true_iff, decide_eq_true_iff, Char.le_def,
      Char.le_def, UInt32.le_iff_toNat_le, UInt32.le_iff_toNat_le]
    rfl
  rw [show '0'.toNat = 48 from rfl] at low high ⊢
  rw [hbounds]
  omega

/-- Digits show one other than zero exactly if the number they denote is not zero. -/
theorem any_isNonzeroDigit {text : List Char} (h : IsDigits text) :
    text.any isNonzeroDigit = (Integer.ofDigits text != 0) := by
  induction text with
  | nil => rfl
  | cons c rest ih =>
    have hc := isNonzeroDigit_iff (h c List.mem_cons_self)
    rw [List.any_cons, ih fun d hd => h d (List.mem_cons_of_mem c hd), Integer.ofDigits_cons,
      Bool.eq_iff_iff, Bool.or_eq_true, hc, bne_iff_ne, bne_iff_ne]
    simp only [ne_eq, Nat.add_eq_zero_iff, Nat.mul_eq_zero, Nat.pow_eq_zero]
    omega

/-! ## The text around the point -/

/-- The digits of a fixed-point text are digits that denote its magnitude. -/
theorem ofDigits_pointDigits (pos : 1 ≤ places) (scaled least : Nat) :
    Integer.ofDigits ((Integer.digits (scaled / Nat.pow 10 places)).leftpad least '0' ++
      (Integer.digits (scaled % Nat.pow 10 places)).leftpad places '0') = scaled := by
  rw [Integer.ofDigits_append, Integer.ofDigits_leftpad_digits, Integer.ofDigits_leftpad_digits,
    Integer.length_leftpad_digits_mod pos]
  exact Nat.div_add_mod scaled (10 ^ places)

/-- A fixed-point text shows a digit other than zero exactly if its number is not zero. -/
theorem any_pointText (pos : 1 ≤ places) (scaled least : Nat) :
    (pointText scaled least places).any isNonzeroDigit = (scaled != 0) := by
  have hdigits : IsDigits ((Integer.digits (scaled / Nat.pow 10 places)).leftpad least '0' ++
      (Integer.digits (scaled % Nat.pow 10 places)).leftpad places '0') := by
    intro c hc
    rcases List.mem_append.1 hc with hc | hc
    · exact Integer.isDigits_leftpad_digits _ _ c hc
    · exact Integer.isDigits_leftpad_digits _ _ c hc
  have hany := any_isNonzeroDigit hdigits
  rw [ofDigits_pointDigits pos, List.any_append] at hany
  rw [pointText, List.any_append, List.any_cons, ← hany]
  rfl

/-- The point stands behind the digits of the integer part. -/
theorem findIdx_pointText (scaled least : Nat) :
    (pointText scaled least places).findIdx (· == '.') =
      ((Integer.digits (scaled / Nat.pow 10 places)).leftpad least '0').length := by
  have hwhole : ∀ c ∈ (Integer.digits (scaled / Nat.pow 10 places)).leftpad least '0',
      (c == '.') = false := by
    intro c hc
    rw [beq_eq_false_iff_ne]
    exact ne_of_isDigit (Integer.isDigits_leftpad_digits _ _ c hc) (by decide)
  rw [pointText, List.findIdx_append, List.findIdx_eq_length_of_false hwhole,
    if_neg (Nat.lt_irrefl _), List.findIdx_cons]
  exact Nat.zero_add _

/-- Zeros in front of a fixed-point text are zeros in front of its integer part. -/
theorem replicate_append_pointText (scaled least : Nat) :
    List.replicate (least - (Integer.digits (scaled / Nat.pow 10 places)).length) '0' ++
      pointText scaled 0 places = pointText scaled least places := by
  rw [pointText, pointText, ← List.append_assoc]
  simp only [List.leftpad, Nat.zero_sub, List.replicate_zero, List.nil_append]

/-- The least magnitude is rounded to zero. -/
theorem toPlaces_of_rank_eq_zero {m : Magnitude} (h : m.rank = 0) (places : Nat) :
    m.toPlaces places = 0 := by
  have hunits : m.units = 0 := by
    rw [units, h]
    rfl
  rw [toPlaces, hunits, Nat.zero_mul]
  simp [roundQuotient]

/-- **Sign and padding of a fixed-point text**: a minus sign exactly if the number is negative and
not rounded to zero, and as many digits in front of the point as asked for, or more. -/
theorem fixedText_eq (pos : 1 ≤ places) (negative : Bool) (m : Magnitude) (least : Nat) :
    m.fixedText negative least places =
      Integer.sign (negative && m.toPlaces places != 0) ++
        pointText (m.toPlaces places) least places := by
  have hplain : m.plainText places = pointText (m.toPlaces places) 0 places :=
    if_neg (Nat.ne_of_gt pos)
  have hminus : ((negative && m.rank != 0) && (m.toPlaces places != 0)) =
      (negative && m.toPlaces places != 0) := by
    by_cases h : m.rank = 0
    · simp [h, toPlaces_of_rank_eq_zero h places]
    · have hrank : (m.rank != 0) = true := bne_iff_ne.2 h
      rw [hrank, Bool.and_true]
  simp only [fixedText, hplain, any_pointText pos, findIdx_pointText, List.leftpad, Nat.zero_sub,
    List.replicate_zero, List.nil_append, hminus, replicate_append_pointText]

end TypedNames.Binary64.Magnitude
