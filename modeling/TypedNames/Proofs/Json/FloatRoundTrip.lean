import TypedNames.Proofs.Json.RecordRoundTrip

/-!
# Double precision numbers through JSON

A finite number of double precision is written with digits that identify it, but it is computed from
them with several roundings, so another number may come back. It has the same sign and is finite,
and it is known exactly: it is nearest to the last product or quotient that is formed, of digits and
a power of ten that have been rounded before. Each of these roundings moves the result to a
neighbouring number at most, and digits up to `2⁵³` with a power of ten up to `10²²` are not rounded
at all.

## Main definitions

* `Json.lastStep` — the product or quotient that is rounded last.
* `Json.roundings` — how many of the numbers in it have been rounded.
* `Json.reread`, `Value.reread` — what is read where a magnitude or a value is written.

## Main results

* `Json.rank_eq_of_scaleInteger?` — a decimal is computed by rounding its last step.
* `Json.dist_rankOf_lastStep_le` — how far the last step is away from the decimal.
* `Json.float_written_read` — numbers of double precision that are written and read, alone and in a
  record.
-/

set_option autoImplicit false

namespace TypedNames

namespace Json

open Binary64

/-! ## The last operation -/

/-- **What is rounded last when a decimal is computed**: the product or the quotient of the digits
and a power of ten, both rounded. Below the last power of ten there are two divisions, and the
result of the first one is rounded as well. -/
def lastStep (d : Decimal) : ℚ :=
  if 0 ≤ d.exponent then rounded d.significand * rounded (10 ^ d.exponent.natAbs)
  else if d.exponent.natAbs ≤ maxPower then
    rounded d.significand / rounded (10 ^ d.exponent.natAbs)
  else
    rounded (rounded d.significand / rounded (10 ^ maxPower)) /
      rounded (10 ^ (d.exponent.natAbs - maxPower))

/-- The last step has no sign. -/
theorem lastStep_nonneg (d : Decimal) : 0 ≤ lastStep d := by
  unfold lastStep
  split_ifs
  · exact mul_nonneg (rounded_nonneg _) (rounded_nonneg _)
  · exact div_nonneg (rounded_nonneg _) (rounded_nonneg _)
  · exact div_nonneg (rounded_nonneg _) (rounded_nonneg _)

/-- How many of the numbers that are put together there have been rounded. Digits up to `2⁵³` and
powers of ten with up to 22 zeros are exact. -/
def roundings (d : Decimal) : Nat :=
  (if d.significand ≤ 2 ^ 53 then 0 else 1) +
    if d.exponent.natAbs ≤ maxPower then (if d.exponent.natAbs ≤ 22 then 0 else 1)
    else 2 + if d.exponent.natAbs - maxPower ≤ 22 then 0 else 1

/-- There are never more than four. -/
theorem roundings_le (d : Decimal) : roundings d ≤ 4 := by
  unfold roundings
  split_ifs <;> omega

variable {m : Magnitude} {d : Decimal} {k : Nat}

/-- The value of a power of ten. -/
theorem value_powerOfTen (le : k ≤ maxPower) : (powerOfTen k).value = rounded (10 ^ k) := by
  rw [Magnitude.value_eq_of_nearest? Nat.one_pos (nearest?_powerOfTen le), Nat.pow_eq]
  push_cast
  rw [div_one]

/-- A power of ten has units. -/
theorem units_powerOfTen_pos (le : k ≤ maxPower) : 0 < (powerOfTen k).units :=
  Nat.lt_of_lt_of_le unitsPerOne_pos (unitsPerOne_le_powerOfTen le)

/-- **A decimal is computed by rounding its last step.** -/
theorem rank_eq_of_scaleInteger? (low : -(2 * maxPower : Nat) ≤ d.exponent)
    (high : d.exponent ≤ maxPower) (h : scaleInteger? d.significand d.exponent = some m) :
    m.rank = rankOf (lastStep d) := by
  obtain ⟨s, e⟩ := d
  dsimp only at low high h
  obtain ⟨a, ha, h⟩ := Option.bind_eq_some_iff.1 h
  have hvalue : a.value = rounded s := by
    rw [Magnitude.value_eq_of_nearest? Nat.one_pos ha, Nat.cast_one, div_one]
  unfold lastStep
  dsimp only
  rw [scale?] at h
  by_cases hnonneg : 0 ≤ e
  · have hle : e.natAbs ≤ maxPower := by omega
    rw [if_pos hle, if_pos hnonneg] at h
    rw [if_pos hnonneg, Magnitude.rank_eq_of_mul? h, hvalue, value_powerOfTen hle]
  rw [if_neg hnonneg]
  by_cases hle : e.natAbs ≤ maxPower
  · rw [if_pos hle, if_neg hnonneg] at h
    rw [if_pos hle, Magnitude.rank_eq_of_div? (units_powerOfTen_pos hle) h, hvalue,
      value_powerOfTen hle]
  rw [if_neg hle] at h ⊢
  by_cases hzero : a = .zero
  · have hnone : rounded s = 0 := by
      rw [← hvalue, hzero, Magnitude.value, Magnitude.units_zero, Nat.cast_zero, zero_div]
    rw [if_pos hzero] at h
    obtain rfl := Option.some.inj h
    rw [hnone, zero_div, rounded, rankOf_zero, valueOfRank, unitsOfRank_zero, Nat.cast_zero,
      zero_div, zero_div, rankOf_zero]
    rfl
  · rw [if_neg hzero, if_neg hnonneg] at h
    obtain ⟨b, hb, h⟩ := Option.bind_eq_some_iff.1 h
    have hmax := Nat.le_refl maxPower
    have hb' : b.value = rounded (rounded s / rounded (10 ^ maxPower)) := by
      rw [Magnitude.value_eq_of_div? (units_powerOfTen_pos hmax) hb, hvalue,
        value_powerOfTen hmax]
    have hrest : (e + maxPower).natAbs = e.natAbs - maxPower := by omega
    have hle' : e.natAbs - maxPower ≤ maxPower := by omega
    rw [scale?, hrest, if_pos hle', if_neg (by omega)] at h
    rw [Magnitude.rank_eq_of_div? (units_powerOfTen_pos hle') h, hb', value_powerOfTen hle']

/-! ## How far the result is away -/

/-- The value of a decimal without places behind the point. -/
theorem value_of_nonneg (h : 0 ≤ d.exponent) :
    d.value = d.significand * 10 ^ d.exponent.natAbs := by
  rw [Decimal.value, ← zpow_natCast, Int.natAbs_of_nonneg h]

/-- The value of a decimal with places behind the point. -/
theorem value_of_neg (h : d.exponent < 0) :
    d.value = d.significand / 10 ^ d.exponent.natAbs := by
  have hexponent : d.exponent = -(d.exponent.natAbs : ℤ) := by omega
  rw [Decimal.value, hexponent, zpow_neg, zpow_natCast, ← div_eq_mul_inv, Int.natAbs_neg,
    Int.natAbs_natCast]

/-- Digits can be rounded without moving further than to a neighbouring rank, whatever they are
scaled by, and up to `2⁵³` without moving at all. -/
theorem dist_rankOf_digits {c : ℚ} (nonneg : 0 ≤ c) (n : Nat) :
    Nat.dist (rankOf (n * c)) (rankOf (rounded n * c)) ≤ if n ≤ 2 ^ 53 then 0 else 1 :=
  dist_rankOf_le_ite (fun h => by rw [rounded_natCast_of_le h])
    (.inl ((nearScaled_rounded_natCast n).mul_right nonneg))
    (mul_nonneg (Nat.cast_nonneg n) nonneg) (mul_nonneg (rounded_nonneg _) nonneg)

/-- The power of ten by which a number is divided can be rounded as well, and with few zeros it is
not rounded. -/
theorem dist_rankOf_div {q : ℚ} (nonneg : 0 ≤ q) (k : Nat) :
    Nat.dist (rankOf (q / 10 ^ k)) (rankOf (q / rounded (10 ^ k))) ≤ if k ≤ 22 then 0 else 1 := by
  have hpow : (0 : ℚ) < 10 ^ k := by positivity
  have hrounded := rounded_ten_pow_pos k
  exact dist_rankOf_le_ite (fun h => by rw [rounded_ten_pow h])
    (.inl ((nearScaled_rounded_ten_pow k).div_left hpow hrounded nonneg))
    (div_nonneg nonneg hpow.le) (div_nonneg nonneg hrounded.le)

/-- The power of ten with which a number is multiplied can be rounded in the same way. -/
theorem dist_rankOf_mul {q : ℚ} (nonneg : 0 ≤ q) (k : Nat) :
    Nat.dist (rankOf (q * 10 ^ k)) (rankOf (q * rounded (10 ^ k))) ≤ if k ≤ 22 then 0 else 1 :=
  dist_rankOf_le_ite (fun h => by rw [rounded_ten_pow h])
    (.inl ((nearScaled_rounded_ten_pow k).mul_left nonneg))
    (mul_nonneg nonneg (by positivity)) (mul_nonneg nonneg (rounded_nonneg _))

/-- Of two divisions one after another, rounding the first divisor and the first result moves by at
most one rank each. -/
theorem dist_rankOf_div_div {q : ℚ} (nonneg : 0 ≤ q) (k j : Nat) :
    Nat.dist (rankOf (q / 10 ^ k / 10 ^ j)) (rankOf (rounded (q / rounded (10 ^ k)) / 10 ^ j)) ≤
      2 := by
  have hone : (1 : ℚ) ≤ 10 ^ j := one_le_pow₀ (by norm_num)
  have hpow : (0 : ℚ) < 10 ^ k := by positivity
  have hrounded := rounded_ten_pow_pos k
  have hquotient : 0 ≤ q / rounded (10 ^ k) := div_nonneg nonneg hrounded.le
  have hj : (0 : ℚ) ≤ 10 ^ j := one_pos.le.trans hone
  have hdivisor := dist_rankOf_le
    (.inl (((nearScaled_rounded_ten_pow k).div_left hpow hrounded nonneg).div_right hj))
    (div_nonneg (div_nonneg nonneg hpow.le) hj) (div_nonneg hquotient hj)
  have hresult := dist_rankOf_le ((near_rounded hquotient).div_right hone)
    (div_nonneg hquotient hj) (div_nonneg (rounded_nonneg _) hj)
  exact (Nat.dist.triangle_inequality _ _ _).trans (Nat.add_le_add hdivisor hresult)

/-- **The last step is at most as many ranks away from the decimal as numbers have been rounded.**

**Proof sketch.** The numbers are rounded one after another, the digits first. Each time the whole
moves by a rounding at most, as the others only scale it. -/
theorem dist_rankOf_lastStep_le (d : Decimal) :
    Nat.dist (rankOf d.value) (rankOf (lastStep d)) ≤ roundings d := by
  have htriangle {a b c x y : Nat} (h : Nat.dist a b ≤ x) (h' : Nat.dist b c ≤ y) :
      Nat.dist a c ≤ x + y :=
    (Nat.dist.triangle_inequality _ _ _).trans (Nat.add_le_add h h')
  have hnonneg : 0 ≤ rounded d.significand := rounded_nonneg _
  have hinv (k : Nat) : (0 : ℚ) ≤ (10 ^ k)⁻¹ := by positivity
  unfold lastStep roundings
  by_cases hpos : 0 ≤ d.exponent
  · have hpow : (0 : ℚ) ≤ 10 ^ d.exponent.natAbs := by positivity
    rw [if_pos hpos, value_of_nonneg hpos]
    refine htriangle (dist_rankOf_digits hpow _) ((dist_rankOf_mul hnonneg _).trans ?_)
    split_ifs <;> omega
  rw [if_neg hpos, value_of_neg (not_le.1 hpos)]
  by_cases hle : d.exponent.natAbs ≤ maxPower
  · rw [if_pos hle, if_pos hle]
    have hdigits := dist_rankOf_digits (hinv d.exponent.natAbs) d.significand
    rw [← div_eq_mul_inv, ← div_eq_mul_inv] at hdigits
    exact htriangle hdigits (dist_rankOf_div hnonneg _)
  · rw [if_neg hle, if_neg hle]
    obtain ⟨j, hj⟩ := Nat.exists_eq_add_of_le (Nat.le_of_not_le hle)
    have hdigits := dist_rankOf_digits (hinv d.exponent.natAbs) d.significand
    rw [← div_eq_mul_inv, ← div_eq_mul_inv, hj, pow_add, ← div_div, ← div_div] at hdigits
    rw [hj, Nat.add_sub_cancel_left, pow_add, ← div_div]
    exact htriangle hdigits
      (htriangle (dist_rankOf_div_div hnonneg maxPower j) (dist_rankOf_div (rounded_nonneg _) j))

/-! ## Magnitudes that are read again -/

/-- **The magnitude that is read where another one is written.** -/
def reread (m : Magnitude) : Magnitude :=
  (scaleInteger? (spelled m).significand (spelled m).exponent).getD .zero

/-- The decimal that is read is computed. -/
theorem scaleInteger?_spelled (m : Magnitude) :
    scaleInteger? (spelled m).significand (spelled m).exponent = some (reread m) := by
  obtain ⟨found, hfound⟩ := Option.isSome_iff_exists.1 (isSome_scaleInteger?_spelled m)
  rw [reread, hfound, Option.getD_some]

/-- **The magnitude that is read is the last step, rounded.** -/
theorem rank_reread (m : Magnitude) : (reread m).rank = rankOf (lastStep (spelled m)) := by
  obtain ⟨hlow, hhigh⟩ := exponent_spelled_bounds m
  have hlimit : -((2 * maxPower : Nat) : Int) ≤ -340 := by decide
  exact rank_eq_of_scaleInteger? (hlimit.trans hlow) hhigh (scaleInteger?_spelled m)

/-- The magnitude that is read is nearest to the last step. -/
theorem isNearest_reread (m : Magnitude) :
    IsNearest (lastStep (spelled m)) (.finite false (reread m)) :=
  Magnitude.isNearest_of_rank_eq (lastStep_nonneg _) (rank_reread m)

/-- **A magnitude comes back exactly if it is nearest to the last step.** -/
theorem reread_eq_iff (m : Magnitude) :
    reread m = m ↔ IsNearest (lastStep (spelled m)) (.finite false m) := by
  constructor
  · intro h
    have hnearest := isNearest_reread m
    rwa [h] at hnearest
  · exact Magnitude.eq_of_isNearest (isNearest_reread m)

/-- **The magnitude that is read is at most four ranks away from the one that was written**, and no
further than there are roundings. -/
theorem dist_rank_reread_le (m : Magnitude) :
    Nat.dist m.rank (reread m).rank ≤ roundings (spelled m) := by
  rw [rank_reread, ← rankOf_spelled]
  exact dist_rankOf_lastStep_le (spelled m)

/-- Without a rounding the magnitude comes back. -/
theorem reread_eq_of_roundings_eq_zero (h : roundings (spelled m) = 0) : reread m = m := by
  have hle := dist_rank_reread_le m
  rw [h, Nat.le_zero] at hle
  exact (Magnitude.rank_inj.1 (Nat.eq_of_dist_eq_zero hle)).symm

end Json

/-! ## Values and records -/

/-- What a value is read as after it is written. -/
def Value.reread : Value → Value
  | .float (.finite negative m) => .float (.finite negative (Json.reread m))
  | v => v

namespace Json

open Binary64

/-- A finite number of double precision is read from its token. -/
theorem readValue_of_hasTokens_float {negative : Bool} {m : Magnitude} {token : Token}
    (h : HasTokens (valueText (.float (.finite negative m))) [token]) :
    readValue (maxDepth - 1) token [] = .ok (.float (.finite negative (reread m))) := by
  obtain ⟨n, hspelled, hspelling, hvalue⟩ := spellsDecimal_magnitudeText negative m
  have hnumber : HasTokens (valueText (.float (.finite negative m))) [.number n] := by
    rw [valueText, floatText, ← hspelling]
    exact hasTokens_spelling hspelled
  obtain rfl : token = .number n := by
    have hsame := (tokens_of_hasTokens h).symm.trans (tokens_of_hasTokens hnumber)
    exact (List.cons.inj hsame).1
  rw [scaleInteger?_spelled, Option.map_some] at hvalue
  simp only [readValue, hvalue, Option.elim_some, Number.toValue]

/-- **A finite value is read from its token**: what was written, but a number of double precision as
the one that is computed. -/
theorem IsTokenOf.readValue_eq {v : Value} {token : Token} (h : IsTokenOf v token)
    (finite : v.isFinite = true) : readValue (maxDepth - 1) token [] = .ok v.reread := by
  obtain ⟨w, hw, hread⟩ := h.readValue_ok finite
  cases hw with
  | float negative m n => exact readValue_of_hasTokens_float h.hasTokens
  | _ => exact hread

/-- A value is read from its text as from its token. -/
theorem parseValue_valueText {v : Value} (finite : v.isFinite = true) :
    parseValue (String.ofList (valueText v)) = .ok v.reread := by
  obtain ⟨token, h⟩ := exists_isTokenOf v
  have hread : readValue maxDepth token [] = .ok v.reread :=
    (readValue_of_isAtom h.isAtom maxDepth []).trans (h.readValue_eq finite)
  rw [parseValue, parseDocument, String.toList_ofList, tokens_of_hasTokens h.hasTokens]
  dsimp only
  rw [hread]
  rfl

/-- A written entry is read with what its value is read as. -/
theorem IsMemberOf.read_eq {pair : String × Value} {member : Member} (h : IsMemberOf pair member)
    (finite : pair.2.isFinite = true) : member.read = .ok (pair.1, pair.2.reread) := by
  rw [Member.read, h.1, readText_map_pieceOf, h.2.readValue_eq finite]
  rfl

/-- **A record of finite values is read with the same names and with what its values are read as**,
in any layout. -/
theorem exists_parseRecord_reread (l : Layout) {r : Record}
    (finite : ∀ entry ∈ r.entries, entry.2.isFinite = true) :
    ∃ found, parseRecord (String.ofList (l.pairsText r.entries)) = .ok found ∧
      found.entries = r.entries.map fun entry => (entry.1, entry.2.reread) := by
  obtain ⟨members, hmembers, htokens⟩ := exists_members_of_pairs l r.entries
  have hread : List.Forall₂ (fun member pair => member.read = .ok pair) members
      (r.entries.map fun entry => (entry.1, entry.2.reread)) := by
    rw [List.forall₂_map_right_iff]
    refine (forall₂_imp_of_mem hmembers fun entry mem member h => ?_).flip
    exact h.read_eq (finite entry mem)
  have hnodup : ((r.entries.map fun entry => (entry.1, entry.2.reread)).map Prod.fst).Nodup := by
    rw [List.map_map]
    exact r.nodup
  exact ⟨_, parseRecord_eq_ok_iff.2 ⟨_, ⟨members, htokens, hread⟩, rfl⟩,
    Record.entries_ofList hnodup⟩

/-- A record of finite values is read from either of the ways in which it is written. -/
theorem exists_parseRecord_written {r : Record}
    (finite : ∀ entry ∈ r.entries, entry.2.isFinite = true) (pretty : Bool) :
    ∃ found, parseRecord (String.ofList (if pretty then prettyRecordText r else recordText r)) =
        .ok found ∧ found.entries = r.entries.map fun entry => (entry.1, entry.2.reread) := by
  cases pretty with
  | false =>
    rw [if_neg Bool.false_ne_true, recordText_eq_pairsText]
    exact exists_parseRecord_reread .compact finite
  | true =>
    rw [if_pos rfl, prettyRecordText_eq_pairsText]
    exact exists_parseRecord_reread (.lines 0) finite

/-- **Numbers of double precision that are written and read.** A finite number comes back exactly if
it is nearest to the last step that is computed. In any case it is written with a decimal to which
it is nearest, and read as a finite number of the same sign, the one nearest to the last step. This
number is as many ranks away as numbers have been rounded before, or fewer, which is never more than
four; where nothing has been rounded, the number itself comes back. The same holds in a record of
finite values, in either of the ways in which it is written: it is read with the same names and with
its values as each is read alone.

**Proof sketch.** The text spells a decimal with at most seventeen digits that rounds to the number.
Its exponent is neither too large to be computed with nor so small that more than two divisions are
needed. Rounding one number after another leads from the decimal to the last step. -/
theorem float_written_read (negative : Bool) (m : Magnitude) :
    (parseValue (String.ofList (valueText (.float (.finite negative m)))) =
        .ok (.float (.finite negative m)) ↔
      IsNearest (lastStep (spelled m)) (.finite false m)) ∧
    parseValue (String.ofList (valueText (.float (.finite negative m)))) =
      .ok (.float (.finite negative (reread m))) ∧
    IsNearest (spelled m).value (.finite false m) ∧
    IsNearest (lastStep (spelled m)) (.finite false (reread m)) ∧
    Nat.dist m.rank (reread m).rank ≤ roundings (spelled m) ∧
    roundings (spelled m) ≤ 4 ∧
    (roundings (spelled m) = 0 → reread m = m) ∧
    ∀ (r : Record) (pretty : Bool) (name : String),
      (∀ entry ∈ r.entries, entry.2.isFinite = true) →
      r.get? name = some (.float (.finite negative m)) →
      ∃ found, parseRecord (String.ofList (if pretty then prettyRecordText r else recordText r)) =
          .ok found ∧
        found.entries = (r.entries.map fun entry => (entry.1, entry.2.reread)) ∧
        found.get? name = some (.float (.finite negative (reread m))) := by
  have hvalue : parseValue (String.ofList (valueText (.float (.finite negative m)))) =
      .ok (.float (.finite negative (reread m))) := parseValue_valueText rfl
  refine ⟨?_, hvalue,
    Magnitude.isNearest_of_rank_eq (spelled m).value_nonneg (rankOf_spelled m).symm,
    isNearest_reread m, dist_rank_reread_le m, roundings_le _, reread_eq_of_roundings_eq_zero,
    fun r pretty name finite h => ?_⟩
  · rw [← reread_eq_iff, hvalue, Except.ok.injEq, Value.float.injEq, Binary64.finite.injEq,
      and_iff_right rfl]
  · obtain ⟨found, hfound, hentries⟩ := exists_parseRecord_written finite pretty
    refine ⟨found, hfound, hentries, ?_⟩
    rw [Record.get?_eq_some_iff] at h ⊢
    rw [hentries]
    exact List.mem_map.2 ⟨_, h, rfl⟩

/-- The number `2⁵³ - 1` is written as `9007199254740991.0`, whose digits are rounded, and it is
read as the number before it. -/
example : reread ⟨0x433FFFFFFFFFFFFF, by decide⟩ = ⟨0x433FFFFFFFFFFFFE, by decide⟩ := by
  decide +kernel

end Json

end TypedNames
