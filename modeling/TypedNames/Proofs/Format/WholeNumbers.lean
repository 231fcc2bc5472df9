import TypedNames.Proofs.Binary64.Integers
import TypedNames.Proofs.Format.Reading
import TypedNames.Proofs.Format.Tokens

/-!
# Integers in fixed-point fields

A field of numbers in fixed-point also takes an integer if a number in double precision equals it.
Nothing is rounded then: the token shows the digits of the integer and only zeros behind the point,
the number that equals the integer has the same token, and this number is read back from it. All
other integers are refused.

## Main definitions

* `Format.wholeText` — an integer with zeros behind the point.

## Main results

* `Format.fixedText_of_value_eq` — the fixed-point token of a number that is an integer.
* `Format.parse_wholeText` — the number that is read from it.
* `Field.write_int_fixed` — integers that are written in fixed-point and read back.
-/

set_option autoImplicit false

namespace TypedNames

open Binary64

namespace Format

/-- **An integer with zeros behind the point**: a minus if it is negative, its digits with zeros in
front up to the least number, the point and as many zeros as there are places. -/
def wholeText (least places : Nat) (k : Int) : List Char :=
  Integer.sign (k < 0) ++
    ((Integer.digits k.natAbs).leftpad least '0' ++ '.' :: List.replicate places '0')

variable {i d : Nat} {k : Int}

/-- A magnitude that is a natural number has only zeros behind the point. -/
theorem toPlaces_of_units_eq {m : Magnitude} {n : Nat} (h : m.units = unitsPerOne * n)
    (places : Nat) : m.toPlaces places = n * Nat.pow 10 places := by
  have hwhole := Magnitude.unitsPerOne_mul_toPlaces (h.trans (Nat.mul_comm _ _)) places
  rw [h, Nat.mul_assoc] at hwhole
  exact Nat.eq_of_mul_eq_mul_left unitsPerOne_pos hwhole

/-- The digits of a natural number of whole units. -/
theorem pointText_mul (pos : 1 ≤ d) (n least : Nat) :
    Magnitude.pointText (n * Nat.pow 10 d) least d =
      (Integer.digits n).leftpad least '0' ++ '.' :: List.replicate d '0' := by
  have hpow : 0 < Nat.pow 10 d := Nat.pow_pos (by decide)
  have hzeros : (Integer.digits 0).leftpad d '0' = List.replicate d '0' := by
    obtain ⟨more, rfl⟩ := Nat.exists_eq_add_of_le' pos
    exact List.replicate_succ'.symm
  rw [Magnitude.pointText, Nat.mul_div_cancel _ hpow, Nat.mul_mod_left, hzeros]

/-- **The fixed-point token of a number that is an integer** shows the integer. A zero has no minus,
whatever the sign of the number is. -/
theorem fixedText_of_value_eq (pos : 1 ≤ d) {negative : Bool} {m : Magnitude}
    (h : (Binary64.finite negative m).value = k) :
    m.fixedText negative i d = wholeText i d k := by
  have hunits := units_eq_of_value_eq h
  have hplaces := toPlaces_of_units_eq hunits d
  have hpow : Nat.pow 10 d ≠ 0 := (Nat.pow_pos (by decide)).ne'
  have hminus : (negative && m.toPlaces d != 0) = decide (k < 0) := by
    have hsign : k < 0 ↔ negative = true ∧ m.value ≠ 0 := by
      rw [← signed_lt_zero_iff m.value_nonneg, ← Int.cast_lt_zero (R := ℚ), ← h, value]
    have hzero : m.value ≠ 0 ↔ m.toPlaces d ≠ 0 := by
      rw [hplaces, Magnitude.value, hunits, Nat.cast_mul,
        mul_div_cancel_left₀ _ unitsPerOne_cast_pos.ne', Nat.cast_ne_zero, Nat.mul_ne_zero_iff,
        and_iff_left hpow]
    rw [Bool.eq_iff_iff, decide_eq_true_iff, hsign, hzero, Bool.and_eq_true, bne_iff_ne]
  rw [m.fixedText_eq pos, hminus, hplaces, pointText_mul pos, wholeText]

/-- **The token of an integer is read as the number that equals it.** -/
theorem parse_wholeText (range : (Format.fixed i d).InRange) {m : Magnitude}
    (h : m.units = unitsPerOne * k.natAbs) :
    Binary64.parse (wholeText i d k) = .ok (.finite (k < 0) m) := by
  have hle : d ≤ 400 := Nat.le_trans range.2.2 (by decide)
  have hpow : 0 < Nat.pow 10 d := Nat.pow_pos (by decide)
  have hexact : Magnitude.nearest? (k.natAbs * Nat.pow 10 d) (Nat.pow 10 d) = some m :=
    Magnitude.nearest?_of_units_eq hpow (by rw [h, Nat.mul_assoc])
  rw [wholeText, ← pointText_mul range.2.1, parse_pointText range.2.1 hle, ofQuotient_eq, hexact]
  rfl

end Format

namespace Field

variable {f : Field} {i d : Nat}

/-- An integer whose magnitude fits into a significand is written with its digits and read back as
the number that equals it. All numbers that equal it have the same token. -/
theorem exists_write_int_fixed (h : f.format = .fixed i d) {n : Int64}
    (fits : FitsSignificand n.toInt.natAbs) :
    ∃ x : Binary64, x.isFinite = true ∧ x.value = n.toInt ∧
      f.write (.int n) = .ok (Format.wholeText i d n.toInt) ∧
      f.read (Format.wholeText i d n.toInt) = .ok (.float x) ∧
      ∀ y : Binary64, y.isFinite = true → y.value = n.toInt →
        f.write (.float y) = .ok (Format.wholeText i d n.toInt) := by
  have range : (Format.fixed i d).InRange := h ▸ f.inRange
  obtain ⟨m, hm⟩ := (exists_units_eq_iff (natAbs_toInt_lt n)).2 fits
  have hvalue := value_eq_of_units_eq hm
  have htext {negative : Bool} {m : Magnitude}
      (hv : (Binary64.finite negative m).value = n.toInt) :
      f.writeFixed i d (.finite negative m) = .ok (Format.wholeText i d n.toInt) := by
    rw [writeFixed, Format.fixedText_of_value_eq range.2.1 hv]
  refine ⟨_, rfl, hvalue, ?_, ?_, fun y hy hv => ?_⟩
  · rw [write_equal h (ofInt64?_eq_some_iff.2 ⟨m, hm, rfl⟩), htext hvalue]
  · rw [read_eq_ok_iff, h, Format.read, Format.parse_wholeText range hm]
    rfl
  · obtain ⟨negative, m', rfl⟩ := exists_of_isFinite hy
    rw [write_float h, htext hv]

/-- **Integers that are written in fixed-point and read back.** An integer is accepted exactly if
its magnitude has at most 53 binary digits in front of its zeros; then it is a number in double
precision, and only then it comes back when it is rounded to the nearest number and this one is
turned into an integer again. The token is its sign and its digits with zeros in front and behind
the point, the same as for each number that equals it, and what is read from it is such a number.
Any other integer is refused. The least integer of 64 bits is accepted, and all those are refused
that are rounded to `2⁶³`: the last 512. -/
theorem write_int_fixed (h : f.format = .fixed i d) :
    (∀ n : Int64,
      (FitsSignificand n.toInt.natAbs → ∃ x : Binary64, x.isFinite = true ∧ x.value = n.toInt ∧
        f.write (.int n) = .ok (Format.wholeText i d n.toInt) ∧
        f.read (Format.wholeText i d n.toInt) = .ok (.float x) ∧
        ∀ y : Binary64, y.isFinite = true → y.value = n.toInt →
          f.write (.float y) = .ok (Format.wholeText i d n.toInt)) ∧
      (¬ FitsSignificand n.toInt.natAbs →
        f.write (.int n) = .error (.unwritable f.name (.inexact n))) ∧
      (FitsSignificand n.toInt.natAbs ↔
        ∃ x : Binary64, x.isFinite = true ∧ x.value = n.toInt) ∧
      (FitsSignificand n.toInt.natAbs ↔ truncate (widen n) = n.toInt)) ∧
    FitsSignificand Int64.minValue.toInt.natAbs ∧
    ∀ n : Int64, ((widen n).value = 2 ^ 63 ↔ 2 ^ 63 - 512 ≤ n.toInt) ∧
      (2 ^ 63 - 512 ≤ n.toInt → f.write (.int n) = .error (.unwritable f.name (.inexact n))) := by
  have hrefused {n : Int64} (fits : ¬ FitsSignificand n.toInt.natAbs) :
      f.write (.int n) = .error (.unwritable f.name (.inexact n)) :=
    write_inexact h (ofInt64?_eq_none_iff.2 fits)
  refine ⟨fun n => ⟨exists_write_int_fixed h, hrefused, exists_value_eq_iff.symm,
    fitsSignificand_iff_truncate⟩, ⟨1, 63, by decide, by decide⟩,
    fun n => ⟨value_widen_eq_iff, fun hle => hrefused (not_fitsSignificand_of_le hle)⟩⟩

/-- A field of numbers with one digit on each side of the point. -/
def tenth : Field where
  name := "tenth"
  spec := "fp1.1"
  format := .fixed 1 1
  name_ne := by decide
  parse_spec := by decide

/-- The least integer of 64 bits is a power of two, and the largest one is rounded to one. -/
theorem write_int_fixed_tenth :
    tenth.format = .fixed 1 1 ∧
      (∃ x : Binary64, x.isFinite = true ∧ x.value = Int64.minValue.toInt ∧
        tenth.write (.int Int64.minValue) =
          .ok (Format.wholeText 1 1 Int64.minValue.toInt) ∧
        tenth.read (Format.wholeText 1 1 Int64.minValue.toInt) = .ok (.float x)) ∧
      tenth.write (.int Int64.maxValue) =
        .error (.unwritable "tenth" (.inexact Int64.maxValue)) := by
  obtain ⟨hall, hmin, hlast⟩ := write_int_fixed (f := tenth) rfl
  obtain ⟨x, hfinite, hvalue, hwrite, hread, -⟩ := (hall Int64.minValue).1 hmin
  exact ⟨rfl, ⟨x, hfinite, hvalue, hwrite, hread⟩, (hlast Int64.maxValue).2 (by decide)⟩

end Field

end TypedNames
