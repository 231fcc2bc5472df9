import TypedNames.Proofs.Binary64.Shortest
import TypedNames.Proofs.Json.Spelling

/-!
# Numbers in range

The value of a number that is no integer is computed from its digits and its exponent with several
roundings. It stays in range for decimals like those that are written: no more digits than fit into
64 bits, and not more than the shortest digits of the largest magnitude. Division never leaves the
range.

## Main results

* `Json.isSome_scaleInteger?` — which decimals are computed without leaving the range.
* `Json.NumberText.magnitude?_eq` — a number is computed from all its digits if they fit into 64
  bits.
-/

set_option autoImplicit false

namespace TypedNames

/-! ## Powers of ten -/

namespace Json

open Binary64 (Magnitude unitsPerOne overflowBound rankOf)

/-- The powers of ten up to the largest one are finite. -/
theorem nearest?_powerOfTen {k : Nat} (le : k ≤ maxPower) :
    Magnitude.nearest? (Nat.pow 10 k) 1 = some (powerOfTen k) := by
  have hmax : Nat.pow 10 maxPower < overflowBound * 1 := by decide +kernel
  have hlt : Nat.pow 10 k < overflowBound * 1 := by
    generalize maxPower = limit at le hmax
    exact Nat.lt_of_le_of_lt (Nat.pow_le_pow_right (by decide) le) hmax
  obtain ⟨m, hm⟩ := Option.isSome_iff_exists.1 ((Magnitude.isSome_nearest?_iff Nat.one_pos).2 hlt)
  rw [powerOfTen, hm]
  rfl

/-- Larger powers of ten have more units. -/
theorem units_powerOfTen_le {k l : Nat} (le : k ≤ l) (max : l ≤ maxPower) :
    (powerOfTen k).units ≤ (powerOfTen l).units := by
  have hle : Nat.pow 10 k * 1 ≤ Nat.pow 10 l * 1 :=
    Nat.mul_le_mul_right _ (Nat.pow_le_pow_right (by decide) le)
  exact Magnitude.units_le_of_nearest? Nat.one_pos Nat.one_pos hle
    (nearest?_powerOfTen (Nat.le_trans le max)) (nearest?_powerOfTen max)

/-- A power of ten is one or more. -/
theorem unitsPerOne_le_powerOfTen {k : Nat} (le : k ≤ maxPower) :
    unitsPerOne ≤ (powerOfTen k).units := by
  have hone : unitsPerOne = (powerOfTen 0).units := by decide +kernel
  rw [hone]
  exact units_powerOfTen_le (Nat.zero_le k) le

/-! ## Scaling -/

/-- Scaling by a power of ten that is not negative is one multiplication. -/
theorem scale?_natCast (m : Magnitude) {e : Nat} (le : e ≤ maxPower) :
    scale? m e = m.mul? (powerOfTen e) := by
  rw [scale?, if_pos (by omega), if_pos (by omega), Int.natAbs_natCast]

/-- **Dividing by a power of ten stays finite.** -/
theorem isSome_scale?_of_neg (m : Magnitude) {e : Int} (neg : e < 0) :
    (scale? m e).isSome = true := by
  fun_induction scale? m e with
  | case1 m e hle hpos => omega
  | case2 m e hle hneg => exact Magnitude.isSome_div? (unitsPerOne_le_powerOfTen hle)
  | case3 => rfl
  | case4 m e hle hzero hpos => omega
  | case5 m e hle hzero hneg ih =>
    obtain ⟨quotient, hquotient⟩ := Option.isSome_iff_exists.1
      (Magnitude.isSome_div? (a := m) (unitsPerOne_le_powerOfTen (Nat.le_refl maxPower)))
    rw [hquotient, Option.bind_some]
    exact ih quotient (by rw [maxPower] at hle ⊢; omega)

/-- Smaller decimals stay in the range where larger ones do. -/
theorem isSome_scaleInteger?_mono {s s' e e' : Nat} (hs : s ≤ s') (he : e ≤ e')
    (max : e' ≤ maxPower) (h : (scaleInteger? s' e').isSome = true) :
    (scaleInteger? s e).isSome = true := by
  rw [scaleInteger?] at h ⊢
  cases hm' : Magnitude.nearest? s' 1 with
  | none => simp [hm'] at h
  | some m' =>
    rw [hm', Option.bind_some, scale?_natCast m' max] at h
    have hlt := (Magnitude.isSome_nearest?_iff Nat.one_pos).1 (Option.isSome_of_eq_some hm')
    obtain ⟨m, hm⟩ := Option.isSome_iff_exists.1
      ((Magnitude.isSome_nearest?_iff Nat.one_pos).2 (Nat.lt_of_le_of_lt hs hlt))
    rw [hm, Option.bind_some, scale?_natCast m (Nat.le_trans he max)]
    exact Magnitude.isSome_mul?_mono
      (Magnitude.units_le_of_nearest? Nat.one_pos Nat.one_pos (by omega) hm hm')
      (units_powerOfTen_le he max) h

/-- Seventeen digits times a power of ten that keeps them below the largest power stay in the range,
also after rounding. -/
theorem isSome_scaleInteger?_low : (scaleInteger? (Nat.pow 10 17) (291 : Nat)).isSome = true := by
  decide +kernel

/-- The largest decimals with few digits behind them, each cut off to these digits, stay in the
range, also after rounding. -/
theorem isSome_scaleInteger?_high : ∀ k < 17, (scaleInteger?
    (Decimal.largest.num / Nat.pow 10 (292 + k)) (292 + k : Nat)).isSome = true := by
  decide +kernel

/-- A number of 64 bits divided by a power of ten stays in the range. -/
theorem isSome_scaleInteger?_of_neg {s : Nat} {e : Int} (lt : s < Integer.wordRange) (neg : e < 0) :
    (scaleInteger? s e).isSome = true := by
  have hmax : Integer.wordRange < overflowBound * 1 := by decide +kernel
  obtain ⟨m, hm⟩ := Option.isSome_iff_exists.1
    ((Magnitude.isSome_nearest?_iff Nat.one_pos).2 (Nat.lt_trans lt hmax))
  rw [scaleInteger?, hm, Option.bind_some]
  exact isSome_scale?_of_neg m neg

/-- A decimal that is not zero and not above the largest one has no larger power of ten. -/
theorem le_maxPower_of_le {s k : Nat} (pos : 0 < s)
    (le : s * Nat.pow 10 k ≤ Decimal.largest.num) : k ≤ maxPower := by
  have hmax : Decimal.largest.num < Nat.pow 10 (maxPower + 1) := by decide +kernel
  apply Nat.le_of_not_lt
  intro hlt
  have hpow : Nat.pow 10 (maxPower + 1) ≤ Nat.pow 10 k := by
    generalize maxPower = limit at hlt
    exact Nat.pow_le_pow_right (by decide) hlt
  have hmul : Nat.pow 10 k ≤ s * Nat.pow 10 k := Nat.le_mul_of_pos_left _ pos
  omega

/-- **Decimals of seventeen digits up to the largest one are computed without leaving the range.**

**Proof sketch.** Division cannot leave the range. For multiplication the digits and the power may
be replaced by larger ones: below `10²⁹²` by seventeen digits and `10²⁹¹`, and from there on by the
largest decimal, cut off to as many digits as the power leaves. -/
theorem isSome_scaleInteger? {s : Nat} {e : Int} (pos : 0 < s) (digits : s ≤ 10 ^ 17)
    (le : Decimal.num ⟨s, e⟩ ≤ Decimal.largest.num * Decimal.den ⟨s, e⟩) :
    (scaleInteger? s e).isSome = true := by
  rcases Int.lt_or_le e 0 with hneg | hpos
  · exact isSome_scaleInteger?_of_neg (Nat.lt_of_le_of_lt digits (by decide)) hneg
  · obtain ⟨k, rfl⟩ := Int.eq_ofNat_of_zero_le hpos
    rw [Decimal.den_natCast, Nat.mul_one] at le
    have hmax : k ≤ maxPower := le_maxPower_of_le pos le
    rcases Nat.lt_or_ge k 292 with hlow | hhigh
    · exact isSome_scaleInteger?_mono digits (Nat.le_of_lt_succ hlow) (by decide)
        isSome_scaleInteger?_low
    · obtain ⟨j, rfl⟩ := Nat.exists_eq_add_of_le hhigh
      have hdiv : s ≤ Decimal.largest.num / Nat.pow 10 (292 + j) :=
        (Nat.le_div_iff_mul_le (Nat.pow_pos (by decide))).2 le
      exact isSome_scaleInteger?_mono hdiv (Nat.le_refl _) hmax
        (isSome_scaleInteger?_high j (by rw [maxPower] at hmax; omega))

/-! ## Values of spellings -/

/-- All digits of a number of 64 bits are taken. -/
theorem takeSignificant_eq {text : List Char} {start : Nat}
    (lt : Nat.ofDigitChars 10 text start < Integer.wordRange) :
    takeSignificant start text = (Nat.ofDigitChars 10 text start, []) := by
  induction text generalizing start with
  | nil => rfl
  | cons c rest ih =>
    rw [Nat.ofDigitChars_cons] at lt ⊢
    rw [takeSignificant, if_pos (Nat.lt_of_le_of_lt (Integer.le_ofDigitChars rest _) lt)]
    exact ih lt

namespace NumberText

/-- The power of ten that the exponent of a number is. -/
def power (n : NumberText) : Int :=
  match n.exponent with
  | none => 0
  | some (negative, digits) =>
    if negative then -(Integer.ofDigits digits : Int) else Integer.ofDigits digits

/-- **A number whose digits fit into 64 bits is computed from all of them.** -/
theorem magnitude?_eq {n : NumberText}
    (lt : Integer.ofDigits (n.whole ++ n.fraction) < Integer.wordRange)
    (small : n.power.natAbs < exponentLimit) :
    n.magnitude? = scaleInteger? (Integer.ofDigits (n.whole ++ n.fraction))
      (n.power - n.fraction.length) := by
  have hdigits : Nat.ofDigitChars 10 n.fraction (Nat.ofDigitChars 10 n.whole 0) =
      Integer.ofDigits (n.whole ++ n.fraction) := by
    rw [Integer.ofDigits, Nat.ofDigitChars_append]
  rw [← hdigits] at lt ⊢
  have hwhole := takeSignificant_eq
    (Nat.lt_of_le_of_lt (Integer.le_ofDigitChars n.fraction _) lt)
  have hfraction := takeSignificant_eq lt
  unfold magnitude?
  rw [power] at small ⊢
  simp only [hwhole, hfraction, List.length_nil, Int.natCast_zero, Int.sub_zero, Int.zero_sub]
  generalize n.exponent = exponent at small ⊢
  cases exponent with
  | none => rw [Int.zero_sub]
  | some p =>
    obtain ⟨negative, digits⟩ := p
    dsimp only at small ⊢
    cases negative with
    | true =>
      rw [if_pos rfl, Int.natAbs_neg, Int.natAbs_natCast] at small
      rw [if_pos small, if_pos rfl, if_pos rfl, Int.sub_eq_add_neg, Int.sub_eq_add_neg,
        Int.add_comm]
    | false =>
      rw [if_neg Bool.false_ne_true, Int.natAbs_natCast] at small
      rw [if_pos small, if_neg Bool.false_ne_true, if_neg Bool.false_ne_true, Int.sub_eq_add_neg,
        Int.add_comm]

/-- A number with a fraction or an exponent is no integer. -/
theorem value?_eq {n : NumberText} (h : n.fraction ≠ [] ∨ n.exponent ≠ none) :
    n.value? = n.magnitude?.map (.float n.negative) := by
  rw [value?, if_neg]
  rintro ⟨hfraction, hexponent, -⟩
  rcases h with h | h
  · exact h hfraction
  · exact h hexponent

/-- The digits of a number of 64 bits are its value. -/
theorem value?_of_digits {negative : Bool} {k : Nat} (lt : k < Integer.wordRange)
    (range : negative = true → 0 < k ∧ k ≤ Integer.halfRange) :
    value? ⟨negative, Integer.digits k, [], none⟩ =
      some (.integer (if negative then -(k : Int) else k)) := by
  have hvalue := Integer.ofDigits_digits k
  simp only [value?, hvalue, lt, and_self, if_true]
  cases negative with
  | true => simp [range rfl]
  | false => rfl

end NumberText

end Json

end TypedNames
