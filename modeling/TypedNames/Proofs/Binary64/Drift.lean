import Mathlib.Tactic.Ring
import TypedNames.Proofs.Binary64.Exact

/-!
# Decimals that drift

A number in double precision that was read from a decimal is rounded to as many decimal places
again, and the new decimal is read. It lies no further from the number than the old decimal did, so
the number should be nearest to it again. This fails only at powers of two, whose lower neighbour is
half as far away as the upper one: the old decimal can lie above the power and the new one below,
too far for the nearer neighbour. With at most 255 decimal places there are 22 such powers.

## Main definitions

* `Binary64.driftPoints` — the numbers of decimal places with the powers of two that fail.
* `Binary64.PowerDrifts` — why they fail.

## Main results

* `Binary64.nearestRank_eq_or_of_dist_le` — a decimal that lies no further away has the same nearest
  rank, unless the rank is that of a power of two and the decimal lies below it.
* `Binary64.mem_driftPoints_iff` — the list of failures is complete.
* `Binary64.Magnitude.nearest?_toPlaces_eq_iff` — the number comes back exactly if it is not one of
  the powers of two.
-/

set_option autoImplicit false

namespace TypedNames

/-! ## Rounded quotients -/

/-- No natural number is nearer to a quotient than the rounded one. -/
theorem dist_roundQuotient_le {den : Nat} (pos : 0 < den) (num n : Nat) :
    Nat.dist num (roundQuotient num den * den) ≤ Nat.dist num (n * den) := by
  have habove := two_mul_roundQuotient_le num den
  have hbelow := two_mul_le_roundQuotient num pos
  generalize roundQuotient num den = r at *
  unfold Nat.dist
  rcases Nat.lt_trichotomy n r with h | rfl | h
  · have hmul : (n + 1) * den ≤ r * den := Nat.mul_le_mul_right _ h
    rw [Nat.add_mul, Nat.one_mul] at hmul
    omega
  · exact Nat.le_refl _
  · have hmul : (r + 1) * den ≤ n * den := Nat.mul_le_mul_right _ h
    rw [Nat.add_mul, Nat.one_mul] at hmul
    omega

/-- A number of whole units is not rounded. -/
theorem roundQuotient_mul {den : Nat} (pos : 0 < den) (n : Nat) :
    roundQuotient (n * den) den = n := by
  have h := dist_roundQuotient_le pos (n * den) n
  rw [Nat.dist_self, Nat.le_zero] at h
  exact (Nat.eq_of_mul_eq_mul_right pos (Nat.eq_of_dist_eq_zero h)).symm

/-- A common factor does not matter. -/
theorem roundQuotient_mul_mul {c : Nat} (pos : 0 < c) (num den : Nat) :
    roundQuotient (c * num) (c * den) = roundQuotient num den := by
  have hlt (a b : Nat) : 2 * (c * a) < c * b ↔ 2 * a < b := by
    rw [Nat.mul_left_comm, Nat.mul_lt_mul_left pos]
  have hlt' (a b : Nat) : c * b < 2 * (c * a) ↔ b < 2 * a := by
    rw [Nat.mul_left_comm, Nat.mul_lt_mul_left pos]
  unfold roundQuotient
  simp only [Nat.mul_div_mul_left _ _ pos, Nat.mul_mod_mul_left, hlt, hlt']

namespace Binary64

/-! ## Neighbours -/

/-- **The neighbours of a rank are equally far away**, unless it is that of a power of two: then the
lower one is half as far. -/
theorem neighbours_unitsOfRank (rank : Nat) :
    unitsOfRank (rank + 1 + 1) + unitsOfRank rank = 2 * unitsOfRank (rank + 1) ∨
      ∃ e, rank + 1 = fractionSize * (e + 2) ∧ unitsOfRank (rank + 1) = 2 ^ (e + 53) ∧
        unitsOfRank rank + 2 ^ e = unitsOfRank (rank + 1) ∧
        unitsOfRank (rank + 1 + 1) = unitsOfRank (rank + 1) + 2 * 2 ^ e := by
  obtain ⟨e, s, rfl, hlt, hnormal⟩ := exists_rank_eq rank
  rw [unitsOfRank_succ_eq hlt hnormal, unitsOfRank_eq (Nat.le_of_lt hlt) hnormal]
  rcases Nat.lt_or_eq_of_le hlt with h | h
  · left
    have hnext : unitsOfRank (fractionSize * e + s + 1 + 1) = (s + 2) * 2 ^ e :=
      unitsOfRank_succ_eq h (hnormal.imp id Nat.le_succ_of_le)
    rw [hnext]
    ring
  · right
    have hrank : fractionSize * e + s + 1 = fractionSize * (e + 1) + fractionSize := by
      rw [Nat.mul_add]
      omega
    have hnext : unitsOfRank (fractionSize * e + s + 1 + 1) = (fractionSize + 1) * 2 ^ (e + 1) := by
      rw [← unitsOfRank_succ_eq (by decide) (.inr (Nat.le_refl _)), ← hrank]
    rw [Nat.succ_eq_add_one] at h
    rw [hnext]
    refine ⟨e, by rw [hrank]; ring, ?_, by ring, ?_⟩
    · rw [h, Nat.pow_add, Nat.mul_comm]
      rfl
    · rw [h]
      ring

/-- **A quotient that lies no further from the nearest rank of another one has the same nearest
rank**, unless the rank is that of a power of two. Then it can lie below, by more than half the
distance of the lower neighbour, while the other quotient lies above.

**Proof sketch.** On one side of the rank, the middle to the neighbour bounds both quotients, with
the same ties. So the quotients lie on different sides, and the neighbours at different
distances. -/
theorem nearestRank_eq_or_of_dist_le {num other den rank : Nat} (pos : 0 < den)
    (nearest : nearestRank num den = rank)
    (le : Nat.dist (unitsPerOne * other) (unitsOfRank rank * den) ≤
      Nat.dist (unitsPerOne * num) (unitsOfRank rank * den)) :
    nearestRank other den = rank ∨ ∃ e, unitsOfRank rank = 2 ^ (e + 53) ∧
      unitsPerOne * other < unitsOfRank rank * den ∧
      2 ^ e * den < 2 * (unitsOfRank rank * den - unitsPerOne * other) ∧
      unitsOfRank rank * den < unitsPerOne * num ∧
      unitsPerOne * num - unitsOfRank rank * den ≤ 2 ^ e * den := by
  have hnum (k : Nat) := lt_nearestRank_iff pos num k
  have hother (k : Nat) := lt_nearestRank_iff pos other k
  rw [nearest] at hnum
  generalize nearestRank other den = found at hother ⊢
  generalize unitsPerOne * num = n at *
  generalize unitsPerOne * other = n' at *
  unfold Nat.dist at le
  have habove := mt (hnum rank).2 (Nat.lt_irrefl rank)
  have habove' := hother rank
  rw [Nat.add_mul] at habove habove'
  cases rank with
  | zero =>
    rw [unitsOfRank_zero, Nat.zero_mul] at le habove habove'
    omega
  | succ below =>
    have hbelow := (hnum below).1 (Nat.lt_succ_self below)
    have hbelow' := hother below
    rw [Nat.add_mul] at hbelow hbelow'
    rcases neighbours_unitsOfRank below with heven | ⟨e, hrank, hunits, hlower, hupper⟩
    · left
      have hscaled := congrArg (· * den) heven
      simp only [Nat.add_mul, Nat.mul_assoc] at hscaled
      omega
    · have hlower' := congrArg (· * den) hlower
      have hupper' := congrArg (· * den) hupper
      simp only [Nat.add_mul, Nat.mul_assoc] at hlower' hupper'
      by_cases hfound : found = below + 1
      · exact .inl hfound
      · have hupwards : ¬ below + 1 < found := by omega
        have hdownwards : ¬ below < found := by omega
        -- the rank of a power of two is even, so a tie with the neighbour below goes to it
        have hodd : below % 2 = 1 := by
          unfold fractionSize at hrank
          omega
        rw [hbelow'] at hdownwards
        clear hother habove' hbelow' hnum
        refine .inr ⟨e, hunits, ?_, ?_, ?_, ?_⟩ <;> omega

/-! ## Powers of two -/

/-- The numbers of decimal places, with the exponents of the powers `2⁻ʲ`, where the number
read back is not the power. -/
def driftPoints : List (Nat × Nat) :=
  [(23, 24), (29, 44), (39, 77), (45, 97), (58, 140), (105, 296), (126, 366), (131, 383),
    (163, 489), (165, 496), (166, 499), (169, 509), (181, 549), (187, 569), (210, 645), (212, 652),
    (215, 662), (225, 695), (228, 705), (250, 778), (253, 788), (254, 791)]

/-- **The power `2⁻ʲ` drifts at `d` decimal places**: rounded to these it falls by more than a
quarter of a unit in its last binary place, while the next decimal above it is at most half such a
unit away. -/
def PowerDrifts (d j : Nat) : Prop :=
  10 ^ d < 2 ^ 54 * (10 ^ d - roundQuotient (10 ^ d) (2 ^ j) * 2 ^ j) ∧
    2 ^ 53 * ((roundQuotient (10 ^ d) (2 ^ j) + 1) * 2 ^ j - 10 ^ d) ≤ 10 ^ d
  deriving Decidable

/-- The power of ten has 52 binary digits more than the divisor. -/
theorem PowerDrifts.log2_eq {d j : Nat} (h : PowerDrifts d j) : (10 ^ d).log2 = j + 52 := by
  obtain ⟨hbelow, habove⟩ := h
  have hhalf := two_mul_le_roundQuotient (10 ^ d) (Nat.two_pow_pos j)
  rw [Nat.add_mul, Nat.one_mul] at habove
  rw [Nat.log2_eq_iff (by positivity)]
  generalize 10 ^ d = p at *
  generalize roundQuotient p (2 ^ j) * 2 ^ j = r at *
  rw [Nat.pow_add, Nat.pow_add, Nat.pow_add]
  omega

/-- **The list holds all powers that drift** at 255 decimal places or fewer.

**Proof sketch.** The number of places determines the power, so there are only as many cases. -/
theorem mem_driftPoints_iff {d j : Nat} (le : d ≤ 255) :
    (d, j) ∈ driftPoints ↔ PowerDrifts d j := by
  have hall : ∀ d < 256, PowerDrifts d ((10 ^ d).log2 - 52) →
      (d, (10 ^ d).log2 - 52) ∈ driftPoints := by decide +kernel
  have hmem : ∀ point ∈ driftPoints, PowerDrifts point.1 point.2 := by decide +kernel
  constructor
  · exact hmem (d, j)
  · intro h
    have hd := hall d (Nat.lt_succ_of_le le)
    rw [h.log2_eq, Nat.add_sub_cancel] at hd
    exact hd h

/-! ## Reading back -/

namespace Magnitude

variable {m : Magnitude} {d j num : Nat}

/-- The value is a power of two if its units divide those in one. -/
theorem value_eq_one_div_iff : m.value = 1 / 2 ^ j ↔ m.units * 2 ^ j = unitsPerOne := by
  rw [value, div_eq_div_iff unitsPerOne_cast_pos.ne' (by positivity), one_mul]
  exact_mod_cast Iff.rfl

/-- A power of two, rounded to decimal places. -/
theorem toPlaces_eq (power : m.units * 2 ^ j = unitsPerOne) (d : Nat) :
    m.toPlaces d = roundQuotient (10 ^ d) (2 ^ j) := by
  have hpos : 0 < m.units := Nat.pos_of_mul_pos_right (power ▸ unitsPerOne_pos)
  rw [toPlaces, Nat.pow_eq, ← power]
  exact roundQuotient_mul_mul hpos _ _

/-- Whole numbers are not rounded to decimal places. -/
theorem unitsPerOne_mul_toPlaces {k : Nat} (whole : m.units = k * unitsPerOne) (d : Nat) :
    unitsPerOne * m.toPlaces d = m.units * 10 ^ d := by
  rw [toPlaces, Nat.pow_eq, whole, Nat.mul_right_comm, roundQuotient_mul unitsPerOne_pos,
    Nat.mul_comm]

/-- How far a power of two lies above a decimal, without their common factor. -/
theorem two_mul_units_mul_sub {e : Nat} (exponent : m.units = 2 ^ (e + 53))
    (power : m.units * 2 ^ j = unitsPerOne) (p r : Nat) :
    2 * (m.units * p - unitsPerOne * r) = 2 ^ e * (2 ^ 54 * (p - r * 2 ^ j)) := by
  rw [← power, Nat.mul_assoc m.units, ← Nat.mul_sub, exponent, Nat.pow_add, Nat.mul_comm (2 ^ j)]
  ring

/-- **A number that was read from a decimal is nearest to the decimal to which it rounds**, unless
it is a power of two that drifts.

**Proof sketch.** The new decimal is no further from the number than the old one. If it has another
nearest number, then it lies below the power and the old decimal lies above it. Powers that are
whole numbers are decimals themselves, so this one is not whole, and cancelling its units leaves the
two conditions. -/
theorem nearestRank_toPlaces_eq_or (h : nearestRank num (10 ^ d) = m.rank) :
    nearestRank (m.toPlaces d) (10 ^ d) = m.rank ∨
      ∃ j, m.units * 2 ^ j = unitsPerOne ∧ PowerDrifts d j := by
  have hpow : 0 < 10 ^ d := Nat.pow_pos (by decide)
  have hle : Nat.dist (unitsPerOne * m.toPlaces d) (m.units * 10 ^ d) ≤
      Nat.dist (unitsPerOne * num) (m.units * 10 ^ d) := by
    rw [Nat.dist_comm, Nat.dist_comm (unitsPerOne * num), Nat.mul_comm unitsPerOne,
      Nat.mul_comm unitsPerOne]
    exact dist_roundQuotient_le unitsPerOne_pos (m.units * 10 ^ d) num
  rcases nearestRank_eq_or_of_dist_le hpow h hle with heq | ⟨e, hexponent, hlt, hbelow, hgt, habove⟩
  · exact .inl heq
  right
  rw [← units_eq] at hexponent hlt hbelow hgt habove
  obtain ⟨n, hn⟩ : ∃ n, n = 1074 := ⟨_, rfl⟩
  have hone := unitsPerOne_eq hn
  rcases Nat.le_total n (e + 53) with hwhole | hfraction
  · obtain ⟨k, hk⟩ := Nat.exists_eq_add_of_le' hwhole
    have hmultiple : m.units = 2 ^ k * unitsPerOne := by
      rw [hexponent, hone, hk, Nat.pow_add]
    exact absurd (unitsPerOne_mul_toPlaces hmultiple d) (Nat.ne_of_lt hlt)
  · obtain ⟨j, hj⟩ := Nat.exists_eq_add_of_le hfraction
    have hpower : m.units * 2 ^ j = unitsPerOne := by
      rw [hexponent, hone, hj, Nat.pow_add _ _ j]
    rw [toPlaces_eq hpower] at hlt hbelow
    rw [two_mul_units_mul_sub hexponent hpower] at hbelow
    have hstep : roundQuotient (10 ^ d) (2 ^ j) + 1 ≤ num :=
      Nat.lt_of_mul_lt_mul_left (Nat.lt_trans hlt hgt)
    refine ⟨j, hpower, Nat.lt_of_mul_lt_mul_left hbelow,
      Nat.le_of_mul_le_mul_left (c := 2 ^ e) ?_ (Nat.two_pow_pos e)⟩
    rw [← hpower, Nat.mul_assoc, ← Nat.mul_sub, hexponent, Nat.pow_add] at habove
    calc 2 ^ e * (2 ^ 53 * ((roundQuotient (10 ^ d) (2 ^ j) + 1) * 2 ^ j - 10 ^ d))
      _ ≤ 2 ^ e * (2 ^ 53 * (num * 2 ^ j - 10 ^ d)) := by gcongr
      _ = 2 ^ e * 2 ^ 53 * (2 ^ j * num - 10 ^ d) := by rw [Nat.mul_assoc, Nat.mul_comm num]
      _ ≤ 2 ^ e * 10 ^ d := habove

/-- The lower neighbour of a power of two, unless that is tiny. -/
theorem exists_lower_of_power (power : m.units * 2 ^ j = unitsPerOne) (le : j ≤ 1021) :
    ∃ e below, m.units = 2 ^ (e + 53) ∧ m.rank = below + 1 ∧
      unitsOfRank below + 2 ^ e = m.units := by
  obtain ⟨n, hn⟩ : ∃ n, n = 1074 := ⟨_, rfl⟩
  obtain ⟨e, he⟩ : ∃ e, n = e + 53 + j := ⟨n - 53 - j, by omega⟩
  have hexponent : m.units = 2 ^ (e + 53) := by
    rw [unitsPerOne_eq hn, he, Nat.pow_add _ _ j] at power
    exact Nat.eq_of_mul_eq_mul_right (Nat.two_pow_pos j) power
  have hlower : unitsOfRank (fractionSize * e + (2 * fractionSize - 1)) =
      (2 * fractionSize - 1) * 2 ^ e := unitsOfRank_eq (by decide) (.inr (by decide))
  have hself : unitsOfRank (fractionSize * e + (2 * fractionSize - 1) + 1) = 2 ^ (e + 53) := by
    rw [unitsOfRank_succ_eq (by decide) (.inr (by decide)), Nat.pow_add, Nat.mul_comm]
    rfl
  refine ⟨e, fractionSize * e + (2 * fractionSize - 1), hexponent, ?_, ?_⟩
  · apply unitsOfRank_strictMono.injective
    rw [← units_eq, hself, hexponent]
  · rw [hlower, hexponent, Nat.pow_add]
    unfold fractionSize
    omega

/-- A power of two that drifts is not nearest to the decimal to which it rounds. -/
theorem nearestRank_toPlaces_ne (power : m.units * 2 ^ j = unitsPerOne) (le : j ≤ 1021)
    (drifts : PowerDrifts d j) : nearestRank (m.toPlaces d) (10 ^ d) ≠ m.rank := by
  obtain ⟨e, below, hexponent, hrank, hlower⟩ := exists_lower_of_power power le
  intro h
  have hpassed := (lt_nearestRank_iff (Nat.pow_pos (by decide : 0 < 10)) (m.toPlaces d) below).1
    (by rw [h, hrank]; exact Nat.lt_succ_self below)
  have hself : unitsOfRank (below + 1) = m.units := by rw [← hrank, ← units_eq]
  have hfar : 2 ^ e * 10 ^ d < 2 * (m.units * 10 ^ d - unitsPerOne * m.toPlaces d) := by
    rw [two_mul_units_mul_sub hexponent power, toPlaces_eq power]
    exact Nat.mul_lt_mul_of_pos_left drifts.1 (Nat.two_pow_pos e)
  rw [hself, ← hlower, Nat.add_mul, Nat.add_mul] at hpassed
  rw [← hlower, Nat.add_mul] at hfar
  omega

/-- **A number that was read from a decimal with at most 255 places** is the nearest one to the
decimal to which it rounds exactly if it is not one of the listed powers of two. -/
theorem nearest?_toPlaces_eq_iff (le : d ≤ 255) (h : nearest? num (Nat.pow 10 d) = some m) :
    nearest? (m.toPlaces d) (Nat.pow 10 d) = some m ↔
      ¬ ∃ j, (d, j) ∈ driftPoints ∧ m.value = 1 / 2 ^ j := by
  have hlast : ∀ point ∈ driftPoints, point.2 ≤ 1021 := by decide
  rw [nearest?_eq_some_iff] at h ⊢
  constructor
  · rintro heq ⟨j, hmem, hvalue⟩
    exact nearestRank_toPlaces_ne (value_eq_one_div_iff.1 hvalue) (hlast _ hmem)
      ((mem_driftPoints_iff le).1 hmem) heq.symm
  · intro hnone
    rcases nearestRank_toPlaces_eq_or h.symm with heq | ⟨j, hpower, hdrifts⟩
    · exact heq.symm
    · exact absurd ⟨j, (mem_driftPoints_iff le).2 hdrifts, value_eq_one_div_iff.2 hpower⟩ hnone

end Magnitude

/-- What is read from the decimal to which a number rounds equals the number exactly if the number
is the nearest one. A minus is lost only in front of zero. -/
theorem equal_ofQuotient_toPlaces_iff {negative : Bool} {m : Magnitude} {d : Nat} :
    (ofQuotient (negative && m.toPlaces d != 0) (m.toPlaces d) (Nat.pow 10 d)).equal
        (.finite negative m) = true ↔
      Magnitude.nearest? (m.toPlaces d) (Nat.pow 10 d) = some m := by
  by_cases hzero : m.toPlaces d = 0
  · rw [hzero, ofQuotient_zero, Magnitude.nearest?_zero, Option.some_inj, ← Magnitude.rank_inj]
    simp [equal, Magnitude.zero]
  · have hsign : (negative && m.toPlaces d != 0) = negative := by simp [hzero]
    rw [hsign, ofQuotient_eq]
    cases Magnitude.nearest? (m.toPlaces d) (Nat.pow 10 d) with
    | none => simp [equal]
    | some m' => simp [equal, Magnitude.rank_inj]

end Binary64

end TypedNames
