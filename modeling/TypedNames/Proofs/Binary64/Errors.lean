import TypedNames.Proofs.Binary64.Integers

/-!
# Errors of rounding

A rational number that is not negative has a nearest rank, and with it a rounded value. Rounding
changes it by no more than its `2⁵³`-th part, or by half a unit if it is tiny; and two numbers that
are that near have ranks that are the same or next to each other. As both kinds of nearness remain
when the numbers are scaled, a result that comes from several roundings is at most that many ranks
away from the exact one.

## Main definitions

* `Binary64.valueOfRank`, `Binary64.middle` — the value of a rank, and the middle to the next one.
* `Binary64.rankOf`, `Binary64.rounded` — the rank nearest to a rational number, and its value.
* `Binary64.NearScaled`, `Binary64.Near` — two numbers differ by no more than a rounding.

## Main results

* `Binary64.lt_rankOf_iff` — which ranks lie below the nearest one.
* `Binary64.near_rounded`, `Binary64.nearScaled_rounded` — a number is near to its rounded value.
* `Binary64.dist_rankOf_le` — numbers that are near have neighbouring ranks.
* `Binary64.rankOf_eq_of_abs_sub_lt` — what is much nearer has the same rank.
-/

set_option autoImplicit false

namespace TypedNames.Binary64

/-! ## Ranks of rational numbers -/

/-- The value of a rank, if there were no largest one. -/
def valueOfRank (rank : Nat) : ℚ :=
  unitsOfRank rank / unitsPerOne

/-- The middle between a rank and the next one. -/
def middle (rank : Nat) : ℚ :=
  (unitsOfRank rank + unitsOfRank (rank + 1)) / (2 * unitsPerOne)

/-- The rank nearest to a rational number that is not negative. -/
def rankOf (q : ℚ) : Nat :=
  nearestRank q.num.natAbs q.den

/-- A rational number that is not negative, rounded to double precision. -/
def rounded (q : ℚ) : ℚ :=
  valueOfRank (rankOf q)

variable {p q c : ℚ} {num den k : Nat}

/-- The value of a magnitude is that of its rank. -/
theorem Magnitude.value_eq (m : Magnitude) : m.value = valueOfRank m.rank := rfl

/-- The values of ranks are not negative. -/
theorem valueOfRank_nonneg (rank : Nat) : 0 ≤ valueOfRank rank :=
  div_nonneg (Nat.cast_nonneg _) unitsPerOne_cast_pos.le

/-- Rounded numbers are not negative. -/
theorem rounded_nonneg (q : ℚ) : 0 ≤ rounded q :=
  valueOfRank_nonneg _

/-- A rank lies below the nearest one exactly when the quotient lies above its middle, or on it if
the next rank is even. -/
theorem lt_nearestRank_iff_middle (pos : 0 < den) : k < nearestRank num den ↔
    middle k < num / den ∨ middle k = num / den ∧ k % 2 = 1 := by
  have hden : (0 : ℚ) < den := Nat.cast_pos.2 pos
  have htwo : (0 : ℚ) < 2 * unitsPerOne := mul_pos two_pos unitsPerOne_cast_pos
  have hswap : (num : ℚ) * (2 * unitsPerOne) = (2 * (unitsPerOne * num) : Nat) := by
    push_cast
    ring
  have hmiddle : ((unitsOfRank k : ℚ) + unitsOfRank (k + 1)) * den =
      ((unitsOfRank k + unitsOfRank (k + 1)) * den : Nat) := by
    push_cast
    rfl
  rw [lt_nearestRank_iff pos, middle, div_lt_div_iff₀ htwo hden, div_eq_div_iff htwo.ne' hden.ne',
    hswap, hmiddle, Nat.cast_lt, Nat.cast_inj]

/-- A rational number that is not negative is a quotient of natural numbers. -/
theorem natAbs_num_div_den (nonneg : 0 ≤ q) : (q.num.natAbs : ℚ) / q.den = q := by
  rw [Nat.cast_natAbs, abs_of_nonneg (Rat.num_nonneg.2 nonneg)]
  exact Rat.num_div_den q

/-- **A rank lies below the nearest one exactly when the number lies above its middle**, or on it if
the next rank is even. -/
theorem lt_rankOf_iff (nonneg : 0 ≤ q) :
    k < rankOf q ↔ middle k < q ∨ middle k = q ∧ k % 2 = 1 := by
  rw [rankOf, lt_nearestRank_iff_middle q.den_pos, natAbs_num_div_den nonneg]

/-- The nearest rank of a quotient depends on its value alone. -/
theorem nearestRank_eq_rankOf (pos : 0 < den) (num : Nat) :
    nearestRank num den = rankOf (num / den) := by
  have hnonneg : (0 : ℚ) ≤ num / den := div_nonneg (Nat.cast_nonneg _) (Nat.cast_nonneg _)
  refine eq_of_forall_lt_iff fun k => ?_
  rw [lt_nearestRank_iff_middle pos, lt_rankOf_iff hnonneg]

/-- A number is not above the middle behind its rank. -/
theorem le_middle_rankOf (nonneg : 0 ≤ q) : q ≤ middle (rankOf q) := by
  by_contra hlt
  exact Nat.lt_irrefl _ ((lt_rankOf_iff nonneg).2 (.inl (not_le.1 hlt)))

/-- A number is not below the middle in front of its rank. -/
theorem middle_le_of_lt_rankOf (nonneg : 0 ≤ q) (lt : k < rankOf q) : middle k ≤ q := by
  rcases (lt_rankOf_iff nonneg).1 lt with h | ⟨h, -⟩
  · exact h.le
  · exact h.le

/-- Larger numbers have larger ranks. -/
theorem rankOf_mono (nonneg : 0 ≤ p) (le : p ≤ q) : rankOf p ≤ rankOf q := by
  by_contra hlt
  rw [not_le] at hlt
  have hbelow := (lt_rankOf_iff nonneg).1 hlt
  have hnot := mt (lt_rankOf_iff (nonneg.trans le)).2 (Nat.lt_irrefl (rankOf q))
  rcases hbelow with h | ⟨h, hodd⟩
  · exact hnot (.inl (h.trans_le le))
  · rcases le.lt_or_eq with hlt | rfl
    · exact hnot (.inl (h ▸ hlt))
    · exact hnot (.inr ⟨h, hodd⟩)

/-- Steps of at least one unit are positive. -/
theorem pos_of_one_le_units {step : ℚ} (h : 1 ≤ unitsPerOne * step) : 0 < step :=
  pos_of_mul_pos_right (one_pos.trans_le h) unitsPerOne_cast_pos.le

/-- A rank and the next one lie one step apart, and the one behind them is at least one more step
away. A significand has 53 binary digits, or else the step is one unit. -/
theorem exists_step (rank : Nat) : ∃ (s : Nat) (step : ℚ), 1 ≤ unitsPerOne * step ∧
    valueOfRank rank = s * step ∧ valueOfRank (rank + 1) = (s + 1) * step ∧
    (s + 2) * step ≤ valueOfRank (rank + 2) ∧ s + 1 ≤ 2 ^ 53 ∧
    (fractionSize ≤ rank ∧ 2 ^ 52 ≤ s ∨ rank < fractionSize ∧ unitsPerOne * step = 1) := by
  obtain ⟨e, s, rfl, hlt, hnormal⟩ := exists_rank_eq rank
  have hunits := unitsPerOne_cast_pos
  have hone : (1 : ℚ) ≤ 2 ^ e := one_le_pow₀ one_le_two
  have hstep : unitsPerOne * (2 ^ e / unitsPerOne : ℚ) = 2 ^ e :=
    mul_div_cancel₀ _ hunits.ne'
  have hnext : (s + 2) * 2 ^ e ≤ unitsOfRank (fractionSize * e + s + 2) := by
    rcases Nat.lt_or_eq_of_le hlt with h | h
    · rw [← unitsOfRank_succ_eq h (hnormal.imp id Nat.le_succ_of_le)]
      exact Nat.le_refl _
    · have hbehind := unitsOfRank_succ_eq (e := e + 1) (s := fractionSize) (by decide)
        (.inr (Nat.le_refl _))
      have hrank : fractionSize * e + s + 2 = fractionSize * (e + 1) + fractionSize + 1 := by
        rw [Nat.mul_add]
        omega
      rw [hrank, hbehind, Nat.pow_succ]
      have hs : s + 2 ≤ (fractionSize + 1) * 2 := by omega
      calc (s + 2) * 2 ^ e ≤ (fractionSize + 1) * 2 * 2 ^ e := Nat.mul_le_mul_right _ hs
        _ = (fractionSize + 1) * (2 ^ e * 2) := by ring
  refine ⟨s, 2 ^ e / unitsPerOne, by rw [hstep]; exact hone, ?_, ?_, ?_, hlt, ?_⟩
  · rw [valueOfRank, unitsOfRank_eq (Nat.le_of_lt hlt) hnormal, ← mul_div_assoc]
    push_cast
    rfl
  · rw [valueOfRank, unitsOfRank_succ_eq hlt hnormal, ← mul_div_assoc]
    push_cast
    rfl
  · rw [valueOfRank, ← mul_div_assoc]
    refine div_le_div_of_nonneg_right ?_ hunits.le
    exact_mod_cast hnext
  · rcases Nat.lt_or_ge (fractionSize * e + s) fractionSize with h | h
    · have hzero : e = 0 := hnormal.resolve_right (by omega)
      exact .inr ⟨h, by rw [hstep, hzero, pow_zero]⟩
    · refine .inl ⟨h, ?_⟩
      rcases hnormal with rfl | hs
      · rwa [Nat.mul_zero, Nat.zero_add] at h
      · exact hs

/-- The middle between two ranks is that of their values. -/
theorem middle_eq (rank : Nat) :
    middle rank = (valueOfRank rank + valueOfRank (rank + 1)) / 2 := by
  rw [middle, valueOfRank, valueOfRank, ← add_div, div_div, mul_comm (unitsPerOne : ℚ)]

/-! ## Nearness -/

/-- **The numbers are near in proportion**: neither exceeds the other by more than its `2⁵³`-th
part. -/
structure NearScaled (p q : ℚ) : Prop where
  le : q * 2 ^ 53 ≤ p * (2 ^ 53 + 1)
  ge : p * 2 ^ 53 ≤ q * (2 ^ 53 + 1)

/-- **The numbers are near**: in proportion, or at most half a unit apart. -/
def Near (p q : ℚ) : Prop :=
  NearScaled p q ∨ |p - q| * (2 * unitsPerOne) ≤ 1

/-- Nearness in proportion is mutual. -/
theorem NearScaled.symm (h : NearScaled p q) : NearScaled q p :=
  ⟨h.ge, h.le⟩

/-- Nearness is mutual. -/
theorem Near.symm (h : Near p q) : Near q p :=
  h.imp NearScaled.symm fun h => abs_sub_comm p q ▸ h

/-- A number is near to itself. -/
theorem NearScaled.refl (nonneg : 0 ≤ q) : NearScaled q q := by
  constructor <;> linarith

/-- What is near in proportion to a positive number is positive. -/
theorem NearScaled.pos (h : NearScaled p q) (pos : 0 < p) : 0 < q := by
  have hle := h.ge
  linarith

/-- Products with the same factor are as near as the other factors. -/
theorem NearScaled.mul_left (h : NearScaled p q) (nonneg : 0 ≤ c) :
    NearScaled (c * p) (c * q) := by
  constructor
  · rw [mul_assoc, mul_assoc]
    exact mul_le_mul_of_nonneg_left h.le nonneg
  · rw [mul_assoc, mul_assoc]
    exact mul_le_mul_of_nonneg_left h.ge nonneg

/-- Products with the same factor are as near as the other factors. -/
theorem NearScaled.mul_right (h : NearScaled p q) (nonneg : 0 ≤ c) :
    NearScaled (p * c) (q * c) := by
  simpa only [mul_comm c] using h.mul_left nonneg

/-- Quotients of the same number are as near as the divisors. -/
theorem NearScaled.div_left (h : NearScaled p q) (hp : 0 < p) (hq : 0 < q) (nonneg : 0 ≤ c) :
    NearScaled (c / p) (c / q) := by
  have hcross (a b : ℚ) (ha : 0 < a) (hb : 0 < b) (hab : a * 2 ^ 53 ≤ b * (2 ^ 53 + 1)) :
      c / b * 2 ^ 53 ≤ c / a * (2 ^ 53 + 1) := by
    rw [div_mul_eq_mul_div, div_mul_eq_mul_div, div_le_div_iff₀ hb ha, mul_assoc, mul_assoc]
    exact mul_le_mul_of_nonneg_left (by linarith) nonneg
  exact ⟨hcross p q hp hq h.ge, hcross q p hq hp h.le⟩

/-- Quotients by the same number are as near as the dividends. -/
theorem NearScaled.div_right (h : NearScaled p q) (nonneg : 0 ≤ c) :
    NearScaled (p / c) (q / c) := by
  simpa only [div_eq_mul_inv] using h.mul_right (inv_nonneg.2 nonneg)

/-- Dividing by one or more keeps numbers near. -/
theorem Near.div_right (h : Near p q) (one_le : 1 ≤ c) : Near (p / c) (q / c) := by
  have hpos : 0 < c := one_pos.trans_le one_le
  rcases h with h | h
  · exact .inl (h.div_right hpos.le)
  · right
    rw [← sub_div, abs_div, abs_of_pos hpos, div_mul_eq_mul_div, div_le_one₀ hpos]
    exact h.trans one_le

/-! ## Ranks of near numbers -/

/-- The next middle is more than a rounding away. -/
theorem middle_lt (rank : Nat) :
    middle rank * (2 ^ 53 + 1) < middle (rank + 1) * 2 ^ 53 ∧
      middle rank * (2 * unitsPerOne) + 1 < middle (rank + 1) * (2 * unitsPerOne) := by
  obtain ⟨s, step, hunit, hself, hnext, hbehind, hs, -⟩ := exists_step rank
  have hunits := unitsPerOne_cast_pos
  have hstep := pos_of_one_le_units hunit
  have hcast : (s : ℚ) + 1 ≤ 2 ^ 53 := by exact_mod_cast hs
  have hmul : (s + 1) * step ≤ 2 ^ 53 * step := mul_le_mul_of_nonneg_right hcast hstep.le
  have hfar : (s + 2) * step + (s + 1) * step ≤ 2 * middle (rank + 1) := by
    rw [middle_eq, hnext]
    linarith
  have hhere : 2 * middle rank = s * step + (s + 1) * step := by
    rw [middle_eq, hself, hnext]
    ring
  constructor
  · linarith
  · have hgap : middle rank + step ≤ middle (rank + 1) := by linarith
    have hscaled := mul_le_mul_of_nonneg_right hgap (mul_pos two_pos hunits).le
    linarith

/-- A number that is near to another one has no rank above the one next to it. -/
theorem rankOf_le_succ (h : Near p q) (hp : 0 ≤ p) (hq : 0 ≤ q) : rankOf q ≤ rankOf p + 1 := by
  by_contra hlt
  obtain ⟨hscaled, hshifted⟩ := middle_lt (rankOf p)
  have habove : middle (rankOf p + 1) ≤ q := middle_le_of_lt_rankOf hq (not_le.1 hlt)
  have hbelow : p ≤ middle (rankOf p) := le_middle_rankOf hp
  rcases h with h | h
  · have hle := h.le
    linarith
  · have hunits : (0 : ℚ) < 2 * unitsPerOne := mul_pos two_pos unitsPerOne_cast_pos
    have hdist : (q - p) * (2 * unitsPerOne) ≤ 1 :=
      (mul_le_mul_of_nonneg_right (by rw [abs_sub_comm]; exact le_abs_self _) hunits.le).trans h
    have hhigh := mul_le_mul_of_nonneg_right habove hunits.le
    have hlow := mul_le_mul_of_nonneg_right hbelow hunits.le
    linarith

/-- **Numbers that are near have the same rank or neighbouring ones.** -/
theorem dist_rankOf_le (h : Near p q) (hp : 0 ≤ p) (hq : 0 ≤ q) :
    Nat.dist (rankOf p) (rankOf q) ≤ 1 := by
  have hle := rankOf_le_succ h hp hq
  have hge := rankOf_le_succ h.symm hq hp
  unfold Nat.dist
  omega

/-- Numbers that are near have neighbouring ranks, and the same one if nothing was rounded. -/
theorem dist_rankOf_le_ite {exact : Prop} [Decidable exact] (same : exact → p = q) (near : Near p q)
    (hp : 0 ≤ p) (hq : 0 ≤ q) : Nat.dist (rankOf p) (rankOf q) ≤ if exact then 0 else 1 := by
  split
  · next h => rw [same h, Nat.dist_self]
  · exact dist_rankOf_le near hp hq

/-- **What is much nearer than any rounding has the same rank**: the neighbours of a rank are not
nearer than the `2⁵³`-th part of its value. -/
theorem rankOf_eq_of_abs_sub_lt {rank : Nat} (nonneg : 0 ≤ q)
    (lt : |q - valueOfRank rank| * 2 ^ 54 < valueOfRank rank) : rankOf q = rank := by
  obtain ⟨hbelow, habove⟩ := abs_lt.1 ((lt_div_iff₀ (by positivity)).2 lt)
  have hbounds {s : Nat} {step : ℚ} (hunit : 1 ≤ unitsPerOne * step) (hs : s + 1 ≤ 2 ^ 53) :
      (s + 1) * step ≤ 2 ^ 53 * step :=
    mul_le_mul_of_nonneg_right (by exact_mod_cast hs) (pos_of_one_le_units hunit).le
  apply le_antisymm
  · by_contra hlt
    obtain ⟨s, step, hunit, hself, hnext, -, hs, -⟩ := exists_step rank
    have hmiddle := middle_le_of_lt_rankOf nonneg (not_le.1 hlt)
    have hmul := hbounds hunit hs
    have hstep := pos_of_one_le_units hunit
    rw [middle_eq, hself, hnext] at hmiddle
    rw [hself] at habove
    linarith
  · cases rank with
    | zero => exact Nat.zero_le _
    | succ k =>
      obtain ⟨s, step, hunit, hself, hnext, -, hs, -⟩ := exists_step k
      have hmul := hbounds hunit hs
      refine (lt_rankOf_iff nonneg).2 (.inl ?_)
      rw [middle_eq, hself, hnext]
      rw [hnext] at hbelow
      linarith

/-! ## Rounded numbers -/

/-- The least number whose significand has all its binary digits. -/
def leastNormal : ℚ :=
  fractionSize / unitsPerOne

/-- The least normal number has a rank of its own. -/
theorem valueOfRank_fractionSize : valueOfRank fractionSize = leastNormal := by
  have hunits : unitsOfRank fractionSize = fractionSize * 2 ^ 0 :=
    unitsOfRank_eq (e := 0) (s := fractionSize) (by decide) (.inl rfl)
  rw [valueOfRank, hunits, pow_zero, Nat.mul_one, leastNormal]

/-- Zero has the first rank. -/
theorem rankOf_zero : rankOf 0 = 0 := by
  have hzero := Magnitude.nearest?_eq_some_iff.1 (Magnitude.nearest?_zero 1)
  exact hzero.symm

/-- The first rank has the value zero. -/
theorem valueOfRank_zero : valueOfRank 0 = 0 := by
  rw [valueOfRank, unitsOfRank_zero, Nat.cast_zero, zero_div]

/-- Zero is not rounded. -/
theorem rounded_zero : rounded 0 = 0 := by
  rw [rounded, rankOf_zero, valueOfRank_zero]

/-- **The value of a rank is rounded to that rank.** -/
theorem rankOf_valueOfRank (rank : Nat) : rankOf (valueOfRank rank) = rank := by
  rcases Nat.eq_zero_or_pos rank with rfl | hpos
  · rw [valueOfRank_zero, rankOf_zero]
  · have hvalue : 0 < valueOfRank rank := div_pos
      (Nat.cast_pos.2 (unitsOfRank_zero ▸ unitsOfRank_strictMono hpos)) unitsPerOne_cast_pos
    refine rankOf_eq_of_abs_sub_lt hvalue.le ?_
    rwa [sub_self, abs_zero, zero_mul]

/-- The rank of the least normal number. -/
theorem rankOf_leastNormal : rankOf leastNormal = fractionSize := by
  rw [← valueOfRank_fractionSize]
  exact rankOf_valueOfRank _

/-- The least normal number is positive. -/
theorem leastNormal_pos : 0 < leastNormal :=
  div_pos (Nat.cast_pos.2 (by decide)) unitsPerOne_cast_pos

/-- **A number that is not tiny is near in proportion to its rounded value.**

**Proof sketch.** It lies between the middles around its rank. Each of them is half a step away from
the value of the rank, which is at least `2⁵²` steps. The middle in front of the least normal number
belongs to shorter steps, but only tiny numbers lie there. -/
theorem nearScaled_rounded (le : leastNormal ≤ q) : NearScaled q (rounded q) := by
  have hnonneg : 0 ≤ q := leastNormal_pos.le.trans le
  have hrank : fractionSize ≤ rankOf q :=
    rankOf_leastNormal ▸ rankOf_mono leastNormal_pos.le le
  have hlong {s : Nat} {step : ℚ} (hunit : 1 ≤ unitsPerOne * step) (hs : 2 ^ 52 ≤ s) :
      2 ^ 52 * step ≤ s * step :=
    mul_le_mul_of_nonneg_right (by exact_mod_cast hs) (pos_of_one_le_units hunit).le
  constructor
  · rcases Nat.lt_or_eq_of_le hrank with hlt | heq
    · obtain ⟨k, hk⟩ : ∃ k, rankOf q = k + 1 := ⟨rankOf q - 1, by omega⟩
      obtain ⟨s, step, hunit, hself, hnext, -, -, ⟨-, hs⟩ | ⟨hsmall, -⟩⟩ := exists_step k
      · have hmiddle := middle_le_of_lt_rankOf hnonneg (by omega : k < rankOf q)
        have hmul := hlong hunit hs
        rw [middle_eq, hself, hnext] at hmiddle
        rw [rounded, hk, hnext]
        linarith
      · omega
    · rw [rounded, ← heq, valueOfRank_fractionSize]
      linarith
  · obtain ⟨s, step, hunit, hself, hnext, -, -, ⟨-, hs⟩ | ⟨hsmall, -⟩⟩ := exists_step (rankOf q)
    · have hmiddle := le_middle_rankOf hnonneg
      have hmul := hlong hunit hs
      rw [middle_eq, hself, hnext] at hmiddle
      rw [rounded, hself]
      linarith
    · omega

/-- **A number is near to its rounded value.**

**Proof sketch.** A tiny number lies between the middles around its rank, and those are half a unit
away from the value of the rank. -/
theorem near_rounded (nonneg : 0 ≤ q) : Near q (rounded q) := by
  rcases le_or_gt leastNormal q with hle | htiny
  · exact .inl (nearScaled_rounded hle)
  right
  have hunits := unitsPerOne_cast_pos
  have hrank : rankOf q ≤ fractionSize := rankOf_leastNormal ▸ rankOf_mono nonneg htiny.le
  suffices h : q - rounded q ≤ 1 / (2 * unitsPerOne) ∧ rounded q - q ≤ 1 / (2 * unitsPerOne) by
    rw [← le_div_iff₀ (mul_pos two_pos hunits), abs_le]
    constructor <;> linarith
  have hhalf {step : ℚ} (hunit : unitsPerOne * step = 1) : 1 / (2 * unitsPerOne) = step / 2 := by
    rw [← hunit]
    field_simp
  have hpositive : (0 : ℚ) ≤ 1 / (2 * unitsPerOne) := by positivity
  constructor
  · rcases Nat.lt_or_eq_of_le hrank with hlt | heq
    · obtain ⟨s, step, -, hself, hnext, -, -, ⟨hlarge, -⟩ | ⟨-, hunit⟩⟩ := exists_step (rankOf q)
      · omega
      · have hmiddle := le_middle_rankOf nonneg
        rw [middle_eq, hself, hnext] at hmiddle
        rw [rounded, hself, hhalf hunit]
        linarith
    · rw [rounded, heq, valueOfRank_fractionSize]
      linarith
  · rcases Nat.eq_zero_or_pos (rankOf q) with hzero | hpos
    · rw [rounded, hzero, valueOfRank_zero]
      linarith
    · obtain ⟨k, hk⟩ : ∃ k, rankOf q = k + 1 := ⟨rankOf q - 1, by omega⟩
      obtain ⟨s, step, -, hself, hnext, -, -, ⟨hlarge, -⟩ | ⟨-, hunit⟩⟩ := exists_step k
      · omega
      · have hmiddle := middle_le_of_lt_rankOf nonneg (by omega : k < rankOf q)
        rw [middle_eq, hself, hnext] at hmiddle
        rw [rounded, hk, hnext, hhalf hunit]
        linarith

/-! ## Rounded operations -/

namespace Magnitude

variable {a b m : Magnitude}

/-- The nearest magnitude to a quotient has its rank. -/
theorem rank_eq_of_nearest? (pos : 0 < den) (h : nearest? num den = some m) :
    m.rank = rankOf (num / den) := by
  rw [nearest?_eq_some_iff.1 h, nearestRank_eq_rankOf pos]

/-- The nearest magnitude to a quotient is its rounded value. -/
theorem value_eq_of_nearest? (pos : 0 < den) (h : nearest? num den = some m) :
    m.value = rounded (num / den) := by
  rw [value_eq, rank_eq_of_nearest? pos h, rounded]

/-- A product has the rank of the exact one. -/
theorem rank_eq_of_mul? (h : a.mul? b = some m) : m.rank = rankOf (a.value * b.value) := by
  rw [rank_eq_of_nearest? (Nat.mul_pos unitsPerOne_pos unitsPerOne_pos) h, value, value]
  push_cast
  rw [div_mul_div_comm]

/-- A quotient has the rank of the exact one. -/
theorem rank_eq_of_div? (pos : 0 < b.units) (h : a.div? b = some m) :
    m.rank = rankOf (a.value / b.value) := by
  rw [rank_eq_of_nearest? pos h, value, value, div_div_div_cancel_right₀ unitsPerOne_cast_pos.ne']

/-- A quotient is the exact one, rounded. -/
theorem value_eq_of_div? (pos : 0 < b.units) (h : a.div? b = some m) :
    m.value = rounded (a.value / b.value) := by
  rw [rounded, ← rank_eq_of_div? pos h, value_eq]

/-- A magnitude with the rank of a number is nearest to it. -/
theorem isNearest_of_rank_eq (nonneg : 0 ≤ q) (h : m.rank = rankOf q) :
    IsNearest q (.finite false m) := by
  have hnearest := isNearest_ofQuotient q.den_pos (nearest?_eq_some_iff.2 h) false
  rwa [natAbs_num_div_den nonneg] at hnearest

/-- Larger ranks have larger values. -/
theorem value_lt_of_rank_lt (lt : a.rank < b.rank) : a.value < b.value :=
  div_lt_div_of_pos_right (Nat.cast_lt.2 (unitsOfRank_strictMono lt)) unitsPerOne_cast_pos

/-- A number without a minus has the value of its magnitude. -/
theorem value_finite_false (m : Magnitude) : (Binary64.finite false m).value = m.value := by
  rw [Binary64.value, signed, if_neg Bool.false_ne_true]

/-- No magnitude is nearer than the nearest one. -/
theorem abs_sub_le_of_isNearest (h : IsNearest q (.finite false a)) (c : Magnitude) :
    |q - a.value| ≤ |q - c.value| := by
  have hle := h.le (.finite false c) rfl
  rwa [value_finite_false, value_finite_false] at hle

/-- If another magnitude is as near as the nearest one, the nearest one is even. -/
theorem even_of_isNearest (h : IsNearest q (.finite false a)) (ne : b.value ≠ a.value)
    (eq : |q - a.value| = |q - b.value|) : a.rank % 2 = 0 := by
  rw [← value_finite_false a, ← value_finite_false b] at ne eq
  exact h.even _ rfl ne eq

/-- Of two nearest magnitudes none has a smaller rank: the number would be in the middle between
them and both ranks would be even, so there would be a nearer magnitude between them. -/
theorem not_rank_lt_of_isNearest (ha : IsNearest q (.finite false a))
    (hb : IsNearest q (.finite false b)) : ¬ a.rank < b.rank := by
  intro hlt
  have hvalue := value_lt_of_rank_lt hlt
  have hsame : |q - a.value| = |q - b.value| :=
    le_antisymm (abs_sub_le_of_isNearest ha b) (abs_sub_le_of_isNearest hb a)
  have heven := even_of_isNearest ha hvalue.ne' hsame
  have heven' := even_of_isNearest hb hvalue.ne hsame.symm
  obtain ⟨between, hbetween⟩ : ∃ c : Magnitude, c.rank = a.rank + 1 :=
    ⟨⟨a.rank + 1, (Nat.succ_le_of_lt hlt).trans_lt b.rank_lt⟩, rfl⟩
  have hlow : a.value < between.value := value_lt_of_rank_lt (by omega)
  have hhigh : between.value < b.value := value_lt_of_rank_lt (by omega)
  have hmiddle : q - a.value = b.value - q := by
    rcases abs_eq_abs.1 hsame with h | h <;> linarith
  have hcloser : |q - between.value| < q - a.value := by
    rw [abs_lt]
    constructor <;> linarith
  have hle := abs_sub_le_of_isNearest ha between
  exact absurd ((le_abs_self _).trans hle) hcloser.not_ge

/-- **There is only one nearest magnitude.** -/
theorem eq_of_isNearest (ha : IsNearest q (.finite false a)) (hb : IsNearest q (.finite false b)) :
    a = b :=
  rank_inj.1 (le_antisymm (not_lt.1 (not_rank_lt_of_isNearest hb ha))
    (not_lt.1 (not_rank_lt_of_isNearest ha hb)))

end Magnitude

/-! ## Natural numbers and powers of ten -/

/-- Natural numbers are near in proportion to their rounded values. -/
theorem nearScaled_rounded_natCast (n : Nat) : NearScaled n (rounded n) := by
  rcases Nat.eq_zero_or_pos n with rfl | hpos
  · rw [Nat.cast_zero, rounded_zero]
    exact .refl le_rfl
  · have hleast : leastNormal ≤ 1 := by
      rw [leastNormal, div_le_one₀ unitsPerOne_cast_pos, Nat.cast_le]
      decide +kernel
    exact nearScaled_rounded (hleast.trans (by exact_mod_cast hpos))

/-- **What fits into a significand is not rounded.** -/
theorem rounded_natCast {n : Nat} (fits : FitsSignificand n) (lt : n < overflowBound) :
    rounded n = n := by
  obtain ⟨m, hm⟩ := (exists_units_eq_iff lt).2 fits
  have hvalue : valueOfRank m.rank = n := by
    rw [← Magnitude.value_eq, Magnitude.value, hm, Nat.cast_mul,
      mul_div_cancel_left₀ _ unitsPerOne_cast_pos.ne']
  rw [← hvalue, rounded, rankOf_valueOfRank]

/-- Natural numbers up to `2⁵³` are not rounded. -/
theorem rounded_natCast_of_le {n : Nat} (le : n ≤ 2 ^ 53) : rounded n = n := by
  have hfits : FitsSignificand n := by
    rcases Nat.lt_or_eq_of_le le with hlt | rfl
    · exact fitsSignificand_of_lt hlt
    · exact fitsSignificand_two_pow 53
  exact rounded_natCast hfits (Nat.lt_of_le_of_lt le (by decide +kernel))

/-- Powers of ten are near in proportion to their rounded values. -/
theorem nearScaled_rounded_ten_pow (k : Nat) : NearScaled (10 ^ k) (rounded (10 ^ k)) := by
  exact_mod_cast nearScaled_rounded_natCast (10 ^ k)

/-- Rounded powers of ten are positive. -/
theorem rounded_ten_pow_pos (k : Nat) : 0 < rounded (10 ^ k) :=
  (nearScaled_rounded_ten_pow k).pos (by positivity)

/-- **Powers of ten with at most 22 zeros are not rounded**: the factor other than two has few
enough binary digits. -/
theorem rounded_ten_pow {k : Nat} (le : k ≤ 22) : rounded (10 ^ k) = 10 ^ k := by
  have hfits : FitsSignificand (10 ^ k) := by
    refine ⟨5 ^ k, k, by rw [← Nat.mul_pow], ?_⟩
    calc 5 ^ k ≤ 5 ^ 22 := Nat.pow_le_pow_right (by decide) le
      _ < 2 ^ 53 := by decide
  have hlt : 10 ^ k < overflowBound :=
    Nat.lt_of_le_of_lt (Nat.pow_le_pow_right (by decide) le) (by decide +kernel)
  exact_mod_cast rounded_natCast hfits hlt

end TypedNames.Binary64
