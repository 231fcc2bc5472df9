import TypedNames.Binary64.Shortest
import TypedNames.Proofs.Binary64.Errors
import TypedNames.Proofs.Format.Tokens

/-!
# Bounds on shortest digits

The shortest digits of a magnitude are at most seventeen, and they round to the magnitude. There
always are such digits: cut off behind the seventeenth digit, a magnitude or the next decimal above
it is nearer to the magnitude than any of its neighbours. The value of shortest digits is at most
that of the shortest digits of the largest magnitude: the digits of a smaller one, if they denoted
more, would round to the largest magnitude or beyond it.

## Main definitions

* `Decimal.value` — the number that a decimal denotes.
* `Decimal.largest` — the shortest digits of the largest magnitude.

## Main results

* `Binary64.Magnitude.units_lt_decade`, `Binary64.Magnitude.ten_zpow_decade_le` — a magnitude lies
  in its decade.
* `Binary64.Magnitude.atDigits?_seventeen_ne_none` — seventeen digits are always enough.
* `Binary64.Magnitude.isNearestTo_shortest` — the shortest digits round to the magnitude.
* `Binary64.Magnitude.num_shortest_le`, `Binary64.Magnitude.le_exponent_of_isNearestTo` — shortest
  digits are neither too large nor too small to be computed with.
-/

set_option autoImplicit false

namespace TypedNames

namespace Decimal

/-- The denominator of a decimal is not zero. -/
theorem den_pos (d : Decimal) : 0 < d.den :=
  Nat.pow_pos (by decide)

/-- A decimal without places behind the point has the denominator one. -/
theorem den_natCast (s k : Nat) : den ⟨s, k⟩ = 1 := by
  rw [den, Int.toNat_neg_natCast]

/-- A decimal with its zeros dropped has the same value. -/
theorem num_carry (d : Decimal) (count : Nat) :
    (d.carry count).num * d.den = d.num * (d.carry count).den := by
  unfold carry
  split
  · next h =>
    simp only [num, den, h, Nat.pow_eq, Nat.one_mul]
    rw [← Nat.pow_add, ← Nat.pow_add, ← Nat.pow_add]
    congr 1
    omega
  · rfl

/-- Dropping zeros makes no significand larger. -/
theorem significand_carry_le {d : Decimal} {count : Nat} (le : d.significand ≤ 10 ^ count) :
    (d.carry count).significand ≤ 10 ^ count := by
  unfold carry
  split
  · exact Nat.one_le_pow _ _ (by decide)
  · exact le

/-- The number that a decimal denotes. -/
def value (d : Decimal) : ℚ :=
  d.significand * 10 ^ d.exponent

/-- A power of ten as a quotient. -/
theorem ten_zpow_eq (e : ℤ) : (10 : ℚ) ^ e = 10 ^ e.toNat / 10 ^ (-e).toNat := by
  rcases le_total 0 e with h | h
  · obtain ⟨k, rfl⟩ := Int.eq_ofNat_of_zero_le h
    simp
  · obtain ⟨k, hk⟩ := Int.eq_ofNat_of_zero_le (neg_nonneg.2 h)
    obtain rfl : e = -k := by omega
    simp

/-- The numerator and the denominator of a decimal are those of its value. -/
theorem num_div_den (d : Decimal) : (d.num : ℚ) / d.den = d.value := by
  rw [value, ten_zpow_eq, num, den, Nat.pow_eq, Nat.pow_eq, ← mul_div_assoc]
  push_cast
  rfl

/-- Decimals denote no negative numbers. -/
theorem value_nonneg (d : Decimal) : 0 ≤ d.value :=
  mul_nonneg (Nat.cast_nonneg _) (zpow_nonneg (by norm_num) _)

/-- The shortest digits of the largest magnitude. -/
def largest : Decimal where
  significand := 17976931348623157
  exponent := 292

end Decimal

namespace Binary64.Magnitude

/-- **A magnitude is below the decade next to its own.** -/
theorem units_lt_decade (m : Magnitude) :
    m.units * 10 ^ (-(m.decade + 1)).toNat < unitsPerOne * 10 ^ (m.decade + 1).toNat := by
  unfold decade
  split
  · next h =>
    have hlen := Integer.one_le_length_digits (m.units / unitsPerOne)
    have hpos : (((Integer.digits (m.units / unitsPerOne)).length : Int) - 1 + 1).toNat =
        (Integer.digits (m.units / unitsPerOne)).length := by omega
    have hneg : (-(((Integer.digits (m.units / unitsPerOne)).length : Int) - 1 + 1)).toNat = 0 := by
      omega
    rw [hpos, hneg, Nat.pow_zero, Nat.mul_one, Nat.mul_comm,
      ← Nat.div_lt_iff_lt_mul unitsPerOne_pos]
    exact Integer.lt_ten_pow_length_digits _
  · next h =>
    have hlen := Integer.one_le_length_digits ((unitsPerOne - 1) / m.units)
    generalize hq : (unitsPerOne - 1) / m.units = q at hlen
    have hpos : (-((Integer.digits q).length : Int) + 1).toNat = 0 := by omega
    have hneg : (-(-((Integer.digits q).length : Int) + 1)).toNat =
        (Integer.digits q).length - 1 := by omega
    rw [hpos, hneg, Nat.pow_zero, Nat.mul_one]
    have hle : m.units * q ≤ unitsPerOne - 1 := by
      rw [← hq]
      exact Nat.mul_div_le _ _
    have hone := unitsPerOne_pos
    rcases Nat.eq_zero_or_pos q with rfl | hne
    · have hdigits : (Integer.digits 0).length - 1 = 0 := rfl
      rw [hdigits, Nat.pow_zero, Nat.mul_one]
      omega
    · have hpow : m.units * 10 ^ ((Integer.digits q).length - 1) ≤ m.units * q :=
        Nat.mul_le_mul_left _ (Integer.ten_pow_le_of_ne_zero (Nat.ne_of_gt hne))
      omega

/-- Cut off behind `count` digits, a magnitude has at most that many of them. -/
theorem significand_lt (m : Magnitude) (count : Nat) :
    m.units * Decimal.den ⟨1, m.decade + 1 - count⟩ /
      (unitsPerOne * Decimal.num ⟨1, m.decade + 1 - count⟩) < 10 ^ count := by
  have h := m.units_lt_decade
  simp only [Decimal.den, Decimal.num, Nat.pow_eq, Nat.one_mul]
  generalize m.decade + 1 = next at h
  rw [Nat.div_lt_iff_lt_mul (Nat.mul_pos unitsPerOne_pos (Nat.pow_pos (by decide)))]
  have hexponent : next.toNat + (-(next - count)).toNat =
      count + (next - count).toNat + (-next).toNat := by omega
  apply Nat.lt_of_mul_lt_mul_right (a := 10 ^ (-next).toNat)
  calc m.units * 10 ^ (-(next - count)).toNat * 10 ^ (-next).toNat
      = m.units * 10 ^ (-next).toNat * 10 ^ (-(next - count)).toNat := Nat.mul_right_comm _ _ _
    _ < unitsPerOne * 10 ^ next.toNat * 10 ^ (-(next - count)).toNat :=
      Nat.mul_lt_mul_of_pos_right h (Nat.pow_pos (by decide))
    _ = unitsPerOne * 10 ^ (count + (next - count).toNat + (-next).toNat) := by
      rw [Nat.mul_assoc, ← Nat.pow_add, hexponent]
    _ = 10 ^ count * (unitsPerOne * 10 ^ (next - count).toNat) * 10 ^ (-next).toNat := by
      rw [Nat.pow_add, Nat.pow_add, ← Nat.mul_assoc, ← Nat.mul_assoc, Nat.mul_comm unitsPerOne,
        Nat.mul_assoc (10 ^ count)]

/-- A quotient lies between its whole part and the next number. -/
theorem cast_div_bounds {den : Nat} (pos : 0 < den) (num : Nat) :
    ((num / den : Nat) : ℚ) ≤ num / den ∧ (num : ℚ) / den < (num / den : Nat) + 1 := by
  have hden : (0 : ℚ) < den := Nat.cast_pos.2 pos
  rw [le_div_iff₀ hden, div_lt_iff₀ hden]
  constructor
  · exact_mod_cast Nat.div_mul_le_self num den
  · have hlt := Nat.lt_div_mul_add pos (a := num)
    rw [add_mul, one_mul]
    exact_mod_cast hlt

/-- **A positive magnitude reaches its decade.** -/
theorem ten_zpow_decade_le {m : Magnitude} (pos : 0 < m.units) : (10 : ℚ) ^ m.decade ≤ m.value := by
  have hunits := unitsPerOne_cast_pos
  unfold decade value
  split
  · next h =>
    have hlen := Integer.one_le_length_digits (m.units / unitsPerOne)
    have hne : m.units / unitsPerOne ≠ 0 := (Nat.div_pos h unitsPerOne_pos).ne'
    have hle := Integer.ten_pow_le_of_ne_zero hne
    obtain ⟨n, hn⟩ := Nat.exists_eq_add_of_le' hlen
    rw [hn, Nat.add_sub_cancel] at hle
    rw [hn, Nat.cast_add, Nat.cast_one, add_sub_cancel_right, zpow_natCast]
    calc (10 : ℚ) ^ n ≤ (m.units / unitsPerOne : Nat) := by exact_mod_cast hle
      _ ≤ m.units / unitsPerOne := (cast_div_bounds unitsPerOne_pos _).1
  · next h =>
    have hlt := Integer.lt_ten_pow_length_digits ((unitsPerOne - 1) / m.units)
    rw [Nat.div_lt_iff_lt_mul pos] at hlt
    generalize (Integer.digits ((unitsPerOne - 1) / m.units)).length = n at hlt
    have hle : unitsPerOne ≤ 10 ^ n * m.units := by
      have hone := unitsPerOne_pos
      omega
    rw [zpow_neg, zpow_natCast, inv_eq_one_div, div_le_div_iff₀ (by positivity) hunits, one_mul,
      mul_comm]
    exact_mod_cast hle

/-- A decimal rounds to a magnitude exactly if its value has the rank. -/
theorem isNearestTo_iff {m : Magnitude} {d : Decimal} :
    m.isNearestTo d = true ↔ rankOf d.value = m.rank := by
  rw [isNearestTo, beq_iff_eq, nearestRank_eq_rankOf d.den_pos, Decimal.num_div_den]

/-- Decimals of one value round to the same magnitude. -/
theorem isNearestTo_congr {m : Magnitude} {d d' : Decimal} (same : d.num * d'.den = d'.num * d.den)
    (h : m.isNearestTo d' = true) : m.isNearestTo d = true := by
  have hrank : nearestRank d.num d.den = nearestRank d'.num d'.den :=
    Nat.le_antisymm (nearestRank_mono d.den_pos d'.den_pos (Nat.le_of_eq same))
      (nearestRank_mono d'.den_pos d.den_pos (Nat.le_of_eq same.symm))
  rwa [isNearestTo, hrank]

/-- A decimal of at most `count` digits that identifies a magnitude has at most that many and rounds
to the magnitude. -/
theorem of_atDigits? {m : Magnitude} {count : Nat} {d : Decimal} (h : m.atDigits? count = some d) :
    d.significand ≤ 10 ^ count ∧ m.isNearestTo d = true := by
  have hlow := m.significand_lt count
  have hcarry {high : Decimal} (hle : high.significand ≤ 10 ^ count)
      (hnear : m.isNearestTo high = true) :
      (high.carry count).significand ≤ 10 ^ count ∧ m.isNearestTo (high.carry count) = true :=
    ⟨Decimal.significand_carry_le hle, isNearestTo_congr (Decimal.num_carry high count) hnear⟩
  unfold atDigits? at h
  dsimp only at h
  split at h
  · next hnearLow =>
    split at h
    · next hnearHigh =>
      split at h
      · obtain rfl := Option.some.inj h
        exact ⟨Nat.le_of_lt hlow, hnearLow⟩
      · split at h
        · obtain rfl := Option.some.inj h
          exact hcarry hlow hnearHigh
        · split at h
          · obtain rfl := Option.some.inj h
            exact ⟨Nat.le_of_lt hlow, hnearLow⟩
          · obtain rfl := Option.some.inj h
            exact hcarry hlow hnearHigh
    · obtain rfl := Option.some.inj h
      exact ⟨Nat.le_of_lt hlow, hnearLow⟩
  · split at h
    · next hnearHigh =>
      obtain rfl := Option.some.inj h
      exact hcarry hlow hnearHigh
    · simp at h

/-- A magnitude lies between the decimal that is cut off and the next one. -/
theorem bounds_of_cut (m : Magnitude) (exponent : ℤ) :
    let low := m.units * Decimal.den ⟨1, exponent⟩ / (unitsPerOne * Decimal.num ⟨1, exponent⟩)
    (low : ℚ) * 10 ^ exponent ≤ m.value ∧ m.value < (low + 1) * 10 ^ exponent := by
  intro low
  have hpow : (0 : ℚ) < 10 ^ exponent := zpow_pos (by norm_num) _
  have hnum : 0 < Decimal.num ⟨1, exponent⟩ := Nat.mul_pos Nat.one_pos (Nat.pow_pos (by decide))
  have hunit := Decimal.num_div_den ⟨1, exponent⟩
  rw [Decimal.value, Nat.cast_one, one_mul] at hunit
  have hquotient : ((m.units * Decimal.den ⟨1, exponent⟩ : Nat) : ℚ) /
      (unitsPerOne * Decimal.num ⟨1, exponent⟩ : Nat) = m.value / 10 ^ exponent := by
    rw [← hunit, value, div_div_div_eq, Nat.cast_mul, Nat.cast_mul]
  have hbounds := cast_div_bounds (Nat.mul_pos unitsPerOne_pos hnum)
    (m.units * Decimal.den ⟨1, exponent⟩)
  rw [hquotient, le_div_iff₀ hpow, div_lt_iff₀ hpow] at hbounds
  exact hbounds

/-- A decimal that is much nearer to a magnitude than its neighbours rounds to it. -/
theorem isNearestTo_of_abs_sub_lt {m : Magnitude} {d : Decimal}
    (lt : |d.value - m.value| * 2 ^ 54 < m.value) : m.isNearestTo d = true :=
  isNearestTo_iff.2 (rankOf_eq_of_abs_sub_lt d.value_nonneg lt)

/-- **Seventeen digits are always enough.**

**Proof sketch.** The magnitude lies between the decimal that is cut off and the next one, so it is
at most half a unit of the last digit away from one of them. That is less than its `2⁵⁴`-th part, as
ten to the sixteenth is more than `2⁵³`. -/
theorem atDigits?_seventeen_ne_none {m : Magnitude} (pos : 0 < m.units) :
    m.atDigits? 17 ≠ none := by
  obtain ⟨hlow, hhigh⟩ := m.bounds_of_cut (m.decade + 1 - (17 : Nat))
  have hunit : (10 : ℚ) ^ (m.decade + 1 - (17 : Nat)) * 10 ^ 16 ≤ m.value := by
    rw [← zpow_natCast, ← zpow_add₀ (by norm_num : (10 : ℚ) ≠ 0)]
    calc (10 : ℚ) ^ (m.decade + 1 - (17 : Nat) + (16 : Nat)) = 10 ^ m.decade := by
          congr 1
          omega
      _ ≤ m.value := ten_zpow_decade_le pos
  have hstep : (0 : ℚ) < 10 ^ (m.decade + 1 - (17 : Nat)) := zpow_pos (by norm_num) _
  unfold atDigits?
  dsimp only
  generalize m.units * _ / _ = low at hlow hhigh ⊢
  generalize m.decade + 1 - (17 : Nat) = exponent at hlow hhigh hunit hstep ⊢
  intro h
  have hfar {d : Decimal} (h : ¬ m.isNearestTo d = true) :
      m.value ≤ |d.value - m.value| * 2 ^ 54 := by
    by_contra hlt
    exact h (isNearestTo_of_abs_sub_lt (not_le.1 hlt))
  have hnone : ¬ m.isNearestTo ⟨low, exponent⟩ = true ∧
      ¬ m.isNearestTo ⟨low + 1, exponent⟩ = true := by
    split_ifs at h
    rename_i hcut hnext
    exact ⟨hcut, hnext⟩
  have hbelow := hfar hnone.1
  have habove := hfar hnone.2
  rw [Decimal.value, abs_of_nonpos (by simpa using hlow)] at hbelow
  rw [Decimal.value, Nat.cast_add, Nat.cast_one, abs_of_pos (sub_pos.2 hhigh)] at habove
  norm_num at hunit hbelow habove
  linarith

/-- The digits of zero. -/
theorem shortest_zero : shortest .zero = ⟨0, -1⟩ := by
  decide +kernel

/-- A magnitude other than zero is positive. -/
theorem units_pos {m : Magnitude} (ne : m ≠ .zero) : 0 < m.units := by
  rw [units_eq, ← unitsOfRank_zero]
  refine unitsOfRank_strictMono (Nat.pos_of_ne_zero fun hzero => ne ?_)
  exact rank_inj.1 hzero

/-- **The shortest digits are at most seventeen and round to the magnitude.** -/
theorem isNearestTo_shortest (m : Magnitude) :
    m.shortest.significand ≤ 10 ^ 17 ∧ m.isNearestTo m.shortest = true := by
  by_cases hzero : m = .zero
  · rw [hzero, shortest_zero]
    decide +kernel
  unfold shortest
  cases hfound : (List.range 17).findSome? fun n => m.atDigits? (n + 1) with
  | none =>
    have hlast := List.findSome?_eq_none_iff.1 hfound 16 (by decide)
    exact absurd hlast (atDigits?_seventeen_ne_none (units_pos hzero))
  | some d =>
    obtain ⟨n, hn, hd⟩ := List.exists_of_findSome?_eq_some hfound
    obtain ⟨hle, hnear⟩ := of_atDigits? hd
    have hcount : n + 1 ≤ 17 := List.mem_range.1 hn
    exact ⟨Nat.le_trans hle (Nat.pow_le_pow_right (by decide) hcount), hnear⟩

/-- Digits that round to a magnitude other than zero are not zero. -/
theorem significand_pos {m : Magnitude} {d : Decimal} (ne : m ≠ .zero)
    (h : m.isNearestTo d = true) : 0 < d.significand := by
  have hrank : nearestRank d.num d.den = m.rank := by simpa [isNearestTo] using h
  have hpos : 0 < m.rank := by
    apply Nat.pos_of_ne_zero
    intro hzero
    obtain ⟨rank, hlt⟩ := m
    obtain rfl : rank = 0 := hzero
    exact ne rfl
  apply Nat.pos_of_ne_zero
  intro hzero
  have hnum : d.num = 0 := by rw [Decimal.num, hzero, Nat.zero_mul]
  rw [← hrank, lt_nearestRank_iff d.den_pos, hnum, Nat.mul_zero, Nat.mul_zero] at hpos
  rcases hpos with hpos | ⟨-, hodd⟩
  · exact Nat.not_lt_zero _ hpos
  · exact absurd hodd (by decide)

/-- **Few digits that round to a magnitude other than zero have no very small exponent.** -/
theorem le_exponent_of_isNearestTo {m : Magnitude} {d : Decimal} (ne : m ≠ .zero)
    (h : m.isNearestTo d = true) (digits : d.significand ≤ 10 ^ 17) : -340 ≤ d.exponent := by
  have hrank : 0 < rankOf d.value := by
    rw [isNearestTo_iff.1 h]
    exact Nat.pos_of_ne_zero fun hzero => ne (rank_inj.1 hzero)
  have hhalf : middle 0 = 1 / (2 * unitsPerOne) := by
    have hone : unitsOfRank (0 + 1) = 1 := rfl
    rw [middle, unitsOfRank_zero, hone, Nat.cast_zero, Nat.cast_one, zero_add]
  have hmiddle := middle_le_of_lt_rankOf d.value_nonneg hrank
  rw [hhalf, Decimal.value] at hmiddle
  by_contra hlt
  have hpow : (10 : ℚ) ^ d.exponent ≤ 10 ^ (-341 : ℤ) :=
    zpow_le_zpow_right₀ (by norm_num) (by omega)
  have hsmall : (d.significand : ℚ) * 10 ^ d.exponent ≤ 10 ^ 17 * 10 ^ (-341 : ℤ) := by
    refine mul_le_mul (by exact_mod_cast digits) hpow (zpow_pos (by norm_num) _).le (by norm_num)
  have hexponent : (10 : ℚ) ^ 17 * 10 ^ (-341 : ℤ) = 1 / 10 ^ 324 := by
    rw [← zpow_natCast, ← zpow_add₀ (by norm_num : (10 : ℚ) ≠ 0), one_div, ← zpow_natCast,
      ← zpow_neg]
    rfl
  have hunits : 2 * unitsPerOne < 10 ^ 324 := by decide +kernel
  have hle := hmiddle.trans (hsmall.trans hexponent.le)
  rw [div_le_div_iff₀ (mul_pos two_pos unitsPerOne_cast_pos) (by positivity), one_mul, one_mul]
    at hle
  have hge : 10 ^ 324 ≤ 2 * unitsPerOne := by exact_mod_cast hle
  omega

/-- The largest magnitude has the digits that are said to be its own. -/
theorem shortest_largest : shortest ⟨rankLimit - 1, by decide⟩ = Decimal.largest := by
  decide +kernel

/-- The digits of the largest magnitude round to it. -/
theorem nearestRank_largest : nearestRank Decimal.largest.num 1 = rankLimit - 1 := by
  decide +kernel

/-- **Shortest digits denote no more than those of the largest magnitude.**

**Proof sketch.** Digits that denote more round to the largest magnitude or beyond it. The largest
magnitude has only the digits above, and no other magnitude is reached by them. -/
theorem num_shortest_le (m : Magnitude) :
    m.shortest.num ≤ Decimal.largest.num * m.shortest.den := by
  apply Nat.le_of_not_lt
  intro hlt
  have hmono : nearestRank Decimal.largest.num 1 ≤ nearestRank m.shortest.num m.shortest.den :=
    nearestRank_mono Nat.one_pos m.shortest.den_pos (by omega)
  have hrank : nearestRank m.shortest.num m.shortest.den = m.rank := by
    simpa [isNearestTo] using m.isNearestTo_shortest.2
  have hlast : m = ⟨rankLimit - 1, by decide⟩ := by
    obtain ⟨rank, hrank_lt⟩ := m
    rw [nearestRank_largest, hrank] at hmono
    have heq : rank = rankLimit - 1 := by
      dsimp only at hmono
      omega
    subst heq
    rfl
  rw [hlast, shortest_largest] at hlt
  exact absurd hlt (by decide +kernel)

end Binary64.Magnitude

end TypedNames
