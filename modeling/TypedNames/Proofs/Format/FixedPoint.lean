import TypedNames.Proofs.Binary64.Exact
import TypedNames.Proofs.Format.Grammar
import TypedNames.Proofs.Format.Reading

/-!
# Fixed-point tokens as numbers

A fixed-point token shows a number rounded to its decimal places: the exact value is rounded, a half
to the even neighbour, and the zeros in front and the sign follow from the result. What is read back
is the nearest number to this decimal, so the value moves by less than a unit of the last place, not
at all if it has no more places, and never to another token.

## Main definitions

* `Format.ShowsRounded` — the parts of a token show a rational number rounded to decimal places.

## Main results

* `Format.fixedText_eq_iff` — the fixed-point token of a number, by its exact value.
* `Field.write_read_fixed` — a number that is written in fixed-point and read back.
-/

set_option autoImplicit false

namespace TypedNames

namespace Format

open Binary64

/-! ## The text of a number -/

/-- **The parts of a token show a rational number rounded to decimal places**: a minus in front of
what is less than zero and was not rounded to zero, an integer part that is padded with zeros to a
least number of digits and as long as it has to be beyond it, and as many digits behind the point as
there are places. -/
structure ShowsRounded (q : ℚ) (least places : Nat) (sign whole fraction : List Char) : Prop where
  /-- There are digits in front of the point. -/
  whole_digits : IsDigits whole
  /-- There are digits behind the point. -/
  fraction_digits : IsDigits fraction
  /-- There are as many digits behind the point as places. -/
  length_fraction : fraction.length = places
  /-- The digits denote the magnitude, rounded to a number of units of the last place. -/
  rounded : IsRounded (|q| * 10 ^ places) (Integer.ofDigits (whole ++ fraction))
  /-- The integer part has its own digits, and zeros in front only up to the least number. -/
  length_whole : whole.length = max least (Integer.digits (Integer.ofDigits whole)).length
  /-- The sign is a minus or nothing. -/
  isSign : IsSign sign
  /-- There is a minus exactly if the number is negative and does not show as zero. -/
  minus_iff : sign = ['-'] ↔ q < 0 ∧ Integer.ofDigits (whole ++ fraction) ≠ 0

/-- The magnitude of a number in units of the last place is its exact value, rounded. -/
theorem isRounded_toPlaces (m : Magnitude) (places : Nat) :
    IsRounded (m.value * 10 ^ places) (m.toPlaces places) := by
  have h := isRounded_roundQuotient unitsPerOne_pos (m.units * Nat.pow 10 places)
  rwa [Nat.cast_mul, Nat.pow_eq, Nat.cast_pow, Nat.cast_ofNat, mul_div_right_comm] at h

/-- The text of a number shows its exact value. -/
theorem showsRounded_fixedText {i d : Nat} (pos : 1 ≤ d) (negative : Bool) (m : Magnitude) :
    ShowsRounded (Binary64.finite negative m).value i d
      (Integer.sign (negative && m.toPlaces d != 0))
      ((Integer.digits (m.toPlaces d / Nat.pow 10 d)).leftpad i '0')
      ((Integer.digits (m.toPlaces d % Nat.pow 10 d)).leftpad d '0') := by
  have hnumber := Magnitude.ofDigits_pointDigits pos (m.toPlaces d) i
  have hzero : m.toPlaces d ≠ 0 → m.value ≠ 0 := by
    intro hne h
    have hrounded := isRounded_toPlaces m d
    rw [h, zero_mul, ← Int.cast_zero] at hrounded
    exact hne (by exact_mod_cast hrounded.eq_of_intCast)
  refine ⟨Integer.isDigits_leftpad_digits _ _, Integer.isDigits_leftpad_digits _ _,
    Integer.length_leftpad_digits_mod pos _, ?_, ?_, isSign_sign _, ?_⟩
  · rw [hnumber, value, abs_signed m.value_nonneg]
    exact isRounded_toPlaces m d
  · rw [Integer.ofDigits_leftpad_digits, Integer.length_leftpad_digits]
  · have hsign (b : Bool) : Integer.sign b = ['-'] ↔ b = true := by cases b <;> decide
    rw [hnumber, value, signed_lt_zero_iff m.value_nonneg, hsign, Bool.and_eq_true, bne_iff_ne]
    exact ⟨fun h => ⟨⟨h.1, hzero h.2⟩, h.2⟩, fun h => ⟨h.1.1, h.2⟩⟩

/-- **The parts that show a number are determined by it.**

**Proof sketch.** There is only one rounded number, and its quotient and remainder by the unit of
the last place are the numbers in front of the point and behind it. The digits follow from these, as
their lengths are given. -/
theorem ShowsRounded.unique {q : ℚ} {i d : Nat}
    {sign whole fraction sign' whole' fraction' : List Char}
    (h : ShowsRounded q i d sign whole fraction) (h' : ShowsRounded q i d sign' whole' fraction') :
    sign = sign' ∧ whole = whole' ∧ fraction = fraction' := by
  have hnumber : Integer.ofDigits (whole ++ fraction) = Integer.ofDigits (whole' ++ fraction') := by
    exact_mod_cast h.rounded.unique h'.rounded
  have hparts : Integer.ofDigits whole = Integer.ofDigits whole' ∧
      Integer.ofDigits fraction = Integer.ofDigits fraction' := by
    have hlow := Integer.ofDigits_lt h.fraction_digits
    have hlow' := Integer.ofDigits_lt h'.fraction_digits
    rw [Integer.ofDigits_append, Integer.ofDigits_append] at hnumber
    rw [h.length_fraction] at hlow hnumber
    rw [h'.length_fraction] at hlow' hnumber
    have hquotient := congrArg (· / 10 ^ d) hnumber
    simp only [Nat.mul_add_div (Nat.pow_pos (by decide : 0 < 10)), Nat.div_eq_of_lt hlow,
      Nat.div_eq_of_lt hlow', Nat.add_zero] at hquotient
    rw [hquotient] at hnumber
    exact ⟨hquotient, Nat.add_left_cancel hnumber⟩
  refine ⟨?_, ?_, ?_⟩
  · have hminus : sign = ['-'] ↔ sign' = ['-'] := by rw [h.minus_iff, h'.minus_iff, hnumber]
    rcases h.isSign with rfl | rfl <;> rcases h'.isSign with rfl | rfl <;> simp_all
  · refine Integer.ofDigits_inj h.whole_digits h'.whole_digits ?_ hparts.1
    rw [h.length_whole, h'.length_whole, hparts.1]
  · exact Integer.ofDigits_inj h.fraction_digits h'.fraction_digits
      (h.length_fraction.trans h'.length_fraction.symm) hparts.2

/-- **The fixed-point token of a number** is the one that shows its exact value rounded to the
places of the format, and no other. It is what a field of the format writes, and the pattern of the
format matches it. -/
theorem fixedText_eq_iff {i d : Nat} (range : (Format.fixed i d).InRange) (negative : Bool)
    (m : Magnitude) :
    (∀ token, m.fixedText negative i d = token ↔ ∃ sign whole fraction,
      token = sign ++ (whole ++ '.' :: fraction) ∧
        ShowsRounded (Binary64.finite negative m).value i d sign whole fraction) ∧
      (Format.fixed i d).pattern.Matches (m.fixedText negative i d) ∧
      ∀ f : Field, f.format = .fixed i d →
        f.write (.float (.finite negative m)) = .ok (m.fixedText negative i d) := by
  have hshows := showsRounded_fixedText (i := i) range.2.1 negative m
  refine ⟨fun token => ⟨?_, ?_⟩, matches_fixedText range.2.1 negative m, fun f hf => ?_⟩
  · rintro rfl
    exact ⟨_, _, _, m.fixedText_eq range.2.1 negative i, hshows⟩
  · rintro ⟨sign, whole, fraction, rfl, h⟩
    obtain ⟨rfl, rfl, rfl⟩ := h.unique hshows
    exact m.fixedText_eq range.2.1 negative i
  · rw [Field.write_eq_ok_iff, hf]
    exact .fixed rfl

/-- The magnitude `9.96875`. -/
def belowTen : Magnitude where
  rank := 4621801525402927104
  rank_lt := by decide

/-- A number that is rounded up to ten needs one digit more than the format asks for. -/
theorem fixedText_belowTen :
    (Format.fixed 1 1).InRange ∧ belowTen.fixedText true 1 1 = ['-', '1', '0', '.', '0'] ∧
      ∃ sign whole fraction, ['-', '1', '0', '.', '0'] = sign ++ (whole ++ '.' :: fraction) ∧
        ShowsRounded (Binary64.finite true belowTen).value 1 1 sign whole fraction := by
  have range : (Format.fixed 1 1).InRange := by unfold InRange; decide
  have htext : belowTen.fixedText true 1 1 = ['-', '1', '0', '.', '0'] := by decide +kernel
  exact ⟨range, htext, ((fixedText_eq_iff range true belowTen).1 _).1 htext⟩

end Format

namespace Field

open Binary64

/-! ## Reading back -/

/-- The decimal that is shown is the number rounded, with its sign unless it shows as zero. -/
theorem exists_isRounded (negative : Bool) (m : Magnitude) (places : Nat) :
    ∃ n : ℤ, IsRounded ((Binary64.finite negative m).value * 10 ^ places) n ∧
      (n : ℚ) = signed (negative && m.toPlaces places != 0) (m.toPlaces places) := by
  have hrounded := Format.isRounded_toPlaces m places
  cases negative with
  | false => exact ⟨_, hrounded, by simp [signed]⟩
  | true =>
    refine ⟨-(m.toPlaces places), ?_, ?_⟩
    · rw [value, signed, if_pos rfl, neg_mul]
      exact hrounded.neg
    · by_cases h : m.toPlaces places = 0 <;> simp [signed, h]

/-- **A number that is written in fixed-point and read back** is the number in double precision that
is nearest to the decimal to which it rounds. It has moved by at most a unit of the last place, not
at all if it has no more places than the format, and it is written as the same token again.

**Proof sketch.** The token shows the decimal, and reading finds the nearest number to it. Distances
follow from the two roundings alone. That the token stays the same is a fact about decimals: the
number that is read is no further from the decimal than the one that was written. -/
theorem write_read_fixed {i d : Nat} (range : (Format.fixed i d).InRange) {name : String}
    (ne : name ≠ "") :
    ∃ f, Field.make name (Format.fixed i d).specifier = .ok f ∧
      ∀ v : Binary64, v.isFinite = true → ∃ token x n, f.write (.float v) = .ok token ∧
        f.read token = .ok (.float x) ∧ IsRounded (v.value * 10 ^ d) n ∧
        IsNearest (n / 10 ^ d) x ∧ |x.value - v.value| ≤ 1 / 10 ^ d ∧
        ((∃ k : ℤ, v.value = k / 10 ^ d) → x.equal v = true) ∧
        f.write (.float x) = .ok token := by
  obtain ⟨f, hmake, hformat⟩ := exists_make range ne
  refine ⟨f, hmake, fun v hv => ?_⟩
  obtain ⟨negative, m, rfl⟩ := exists_of_isFinite hv
  obtain ⟨m', hnearest, -⟩ := m.exists_nearest_toPlaces d
  obtain ⟨n, hrounded, hn⟩ := exists_isRounded negative m d
  have hwrites : f.format.Writes (.float (.finite negative m)) (m.fixedText negative i d) :=
    hformat ▸ .fixed rfl
  have hrestored : f.format.restored (.float (.finite negative m)) =
      .float (.finite (negative && m.toPlaces d != 0) m') := by
    rw [hformat, Format.restored, Value.decimal?, Value.number?]
    simp only [ofQuotient_eq, hnearest, Option.elim]
  have hisNearest := isNearest_ofQuotient (Nat.pow_pos (by decide)) hnearest
    (negative && m.toPlaces d != 0)
  rw [Nat.cast_pow, Nat.cast_ofNat, ← signed_div, ← hn] at hisNearest
  have hpos : (0 : ℚ) < 10 ^ d := by positivity
  refine ⟨_, _, n, Field.write_eq_ok_iff.2 hwrites, ?_, hrounded, hisNearest,
    abs_value_sub_le hpos rfl hrounded hisNearest, fun whole => ?_, ?_⟩
  · rw [read_eq_ok_iff, Format.read_of_writes f.inRange hwrites, hrestored]
  · exact (equal_iff_value_eq rfl rfl).2 (value_eq_of_intCast hpos rfl hrounded hisNearest whole)
  · rw [← hrestored]
    exact Field.write_eq_ok_iff.2 (Format.writes_restored f.inRange hwrites (by rw [hformat]; rfl))

/-- The magnitude `0.25`. -/
def quarter : Magnitude where
  rank := 4598175219545276416
  rank_lt := by decide

/-- A negative number that lies in the middle between two decimals is written and read back. -/
theorem write_read_fixed_quarter :
    (Format.fixed 1 1).InRange ∧ "x" ≠ "" ∧ (Binary64.finite true quarter).isFinite = true ∧
      ∃ f, Field.make "x" (Format.fixed 1 1).specifier = .ok f ∧
        ∃ token x n, f.write (.float (.finite true quarter)) = .ok token ∧
          f.read token = .ok (.float x) ∧
          IsRounded ((Binary64.finite true quarter).value * 10 ^ 1) n ∧
          IsNearest (n / 10 ^ 1) x ∧
          |x.value - (Binary64.finite true quarter).value| ≤ 1 / 10 ^ 1 ∧
          ((∃ k : ℤ, (Binary64.finite true quarter).value = k / 10 ^ 1) →
            x.equal (.finite true quarter) = true) ∧
          f.write (.float x) = .ok token := by
  have range : (Format.fixed 1 1).InRange := by unfold Format.InRange; decide
  obtain ⟨f, hmake, hall⟩ := write_read_fixed range (by decide : "x" ≠ "")
  exact ⟨range, by decide, rfl, f, hmake, hall (.finite true quarter) rfl⟩

end Field

end TypedNames
