import TypedNames.Proofs.Binary64.Drift
import TypedNames.Proofs.Format.Reading

/-!
# Values that are read, written and read again

A value that a field has read from a token can be written as another token: zeros in front are
dropped or added, a padded text loses the zeros it had, and a number in fixed-point is rounded to
the places of the format. The new token is one of the field, and the same value is read from it,
with one exception: some powers of two drift to the next number below when they are rounded to very
many places.

## Main definitions

* `Format.Drifts` — a number is one of the powers of two that drift.

## Main results

* `Field.read_write_read` — a value that is read, written and read again is the same, unless it
  drifts.
-/

set_option autoImplicit false

namespace TypedNames

/-- Values that are no numbers are equal to themselves. -/
theorem Value.equal_self {v : Value} (ne : v.kind ≠ .float) : v.equal v = true := by
  cases v with
  | float x => exact absurd rfl ne
  | bool b => exact beq_self_eq_true b
  | int n => exact beq_self_eq_true n
  | str s => exact beq_self_eq_true s

namespace Format

/-- **The value drifts when it is written and read**: the format is one in fixed-point, and the
value is a power of two, with either sign, that drifts at its number of decimal places. -/
def Drifts : Format → Value → Prop
  | .fixed _ d, .float (.finite _ m) => ∃ j, (d, j) ∈ Binary64.driftPoints ∧ m.value = 1 / 2 ^ j
  | _, _ => False

/-- Only values of formats in fixed-point drift. -/
theorem not_drifts_of_kind_ne {format : Format} (kind_ne : format.kind ≠ .float) (v : Value) :
    ¬ format.Drifts v := by
  cases format with
  | fixed i d => exact absurd rfl kind_ne
  | bool => exact id
  | int width => exact id
  | str padding => exact id

/-- The values that can be written are finite, or no numbers. -/
theorem isFinite_of_writes {format : Format} {v : Value} {token : List Char}
    (h : format.Writes v token) : v.isFinite = true := by
  cases h with
  | @fixed i d v negative m number =>
    cases v with
    | float x =>
      obtain rfl : x = .finite negative m := Option.some.inj number
      rfl
    | bool b => rfl
    | int n => rfl
    | str s => rfl
  | bool b => rfl
  | int width n => rfl
  | str padding s => rfl

/-- **What is read from a token, written and read again is the same value, unless it drifts.**

**Proof sketch.** By the kind of the format. A text that is read has no zeros of its own if it was
padded, so nothing but padding is lost. A number in fixed-point is the nearest one to a decimal. -/
theorem equal_restored_iff {format : Format} (range : format.InRange) {token : List Char}
    {v : Value} (hmatches : format.pattern.Matches token) (h : format.read token = .ok v)
    (finite : v.isFinite = true) :
    (format.restored v).equal v = true ↔ ¬ format.Drifts v := by
  obtain ⟨-, -, hfree⟩ := exists_writes_of_read hmatches h finite
  by_cases hkind : format.kind = .float
  · obtain ⟨i, d, rfl⟩ := kind_eq_float_iff.1 hkind
    rw [read_fixed range hmatches, Binary64.ofQuotient_eq] at h
    cases hnearest : Binary64.Magnitude.nearest? (number token) (Nat.pow 10 d) with
    | none =>
      rw [hnearest] at h
      obtain rfl := Except.ok.inj h
      exact Bool.noConfusion finite
    | some m =>
      rw [hnearest] at h
      obtain rfl := Except.ok.inj h
      exact Binary64.equal_ofQuotient_toPlaces_iff.trans
        (Binary64.Magnitude.nearest?_toPlaces_eq_iff range.2.2 hnearest)
  · rw [restored_of_zeroFree hkind hfree]
    refine iff_of_true (Value.equal_self ?_) (not_drifts_of_kind_ne hkind v)
    rwa [kind_of_read h]

end Format

namespace Field

/-- **A value that a field reads from a token, writes and reads again is the same value, unless it
drifts.** The token in between is one of the field.

**Proof sketch.** What was read fits the format, so the pattern matches the new token, and what is
read from it is the restored value. -/
theorem read_write_read {f : Field} {token again : List Char} {v : Value}
    (hmatches : f.pattern.Matches token) (hread : f.read token = .ok v)
    (hwrite : f.write v = .ok again) :
    f.pattern.Matches again ∧
      ∃ w, f.read again = .ok w ∧ (w.equal v = true ↔ ¬ f.format.Drifts v) := by
  rw [read_eq_ok_iff] at hread
  rw [write_eq_ok_iff] at hwrite
  have hfinite := Format.isFinite_of_writes hwrite
  obtain ⟨-, hfits, -⟩ := Format.exists_writes_of_read hmatches hread hfinite
  refine ⟨(Format.matches_iff_fits f.inRange hwrite).2 hfits, f.format.restored v, ?_,
    Format.equal_restored_iff f.inRange hmatches hread hfinite⟩
  rw [read_eq_ok_iff, Format.read_of_writes f.inRange hwrite]

/-- A field of texts of five characters, with zeros behind. -/
def mark : Field where
  name := "mark"
  spec := "str5"
  format := .str (some (5, .back))
  name_ne := by decide
  parse_spec := by decide

/-- A text with zeros in front and in the middle is written with all zeros behind. -/
theorem read_write_read_mark :
    mark.pattern.Matches ['0', 'a', '0', 'b', '0'] ∧
      mark.read ['0', 'a', '0', 'b', '0'] = .ok (.str "ab") ∧
      mark.write (.str "ab") = .ok ['a', 'b', '0', '0', '0'] ∧
      mark.pattern.Matches ['a', 'b', '0', '0', '0'] ∧
      ∃ w, mark.read ['a', 'b', '0', '0', '0'] = .ok w ∧
        (w.equal (.str "ab") = true ↔ ¬ mark.format.Drifts (.str "ab")) :=
  have hmatches : mark.pattern.Matches ['0', 'a', '0', 'b', '0'] :=
    Format.matches_sizedStr_iff.2 ⟨rfl, List.all_eq_true.1 (by decide)⟩
  have hread : mark.read ['0', 'a', '0', 'b', '0'] = .ok (.str "ab") := by decide
  have hwrite : mark.write (.str "ab") = .ok ['a', 'b', '0', '0', '0'] := by decide
  ⟨hmatches, hread, hwrite, read_write_read hmatches hread hwrite⟩

/-- A field of numbers with 29 decimal places. -/
def fine : Field where
  name := "fine"
  spec := "fp1.29"
  format := .fixed 1 29
  name_ne := by decide
  parse_spec := by decide

/-- The magnitude `2⁻⁴⁴`. -/
def power : Binary64.Magnitude where
  rank := 4409024035195715584
  rank_lt := by decide

/-- The next magnitude below it. -/
def belowPower : Binary64.Magnitude where
  rank := 4409024035195715583
  rank_lt := by decide

/-- **A power of two that drifts**: it is read from a decimal above, written as the decimal below,
and from this the next number below is read. -/
theorem read_write_read_drifts :
    fine.pattern.Matches "0.00000000000005684341886080802".toList ∧
      fine.read "0.00000000000005684341886080802".toList = .ok (.float (.finite false power)) ∧
      fine.write (.float (.finite false power)) = .ok "0.00000000000005684341886080801".toList ∧
      fine.read "0.00000000000005684341886080801".toList =
        .ok (.float (.finite false belowPower)) ∧
      (Value.float (.finite false belowPower)).equal (.float (.finite false power)) = false := by
  have hmatches : fine.pattern.Matches "0.00000000000005684341886080802".toList :=
    Format.matches_fixed_iff.2 ⟨[], ['0'], "00000000000005684341886080802".toList, rfl, .inl rfl,
      ⟨by decide, List.all_eq_true.1 (by decide)⟩, by decide, List.all_eq_true.1 (by decide)⟩
  refine ⟨hmatches, ?_, ?_, ?_, by decide⟩
  · decide +kernel
  · decide +kernel
  · decide +kernel

end Field

end TypedNames
