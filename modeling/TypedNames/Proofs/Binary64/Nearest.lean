import Mathlib.Data.Nat.Dist
import Mathlib.Order.Monotone.Basic
import TypedNames.Proofs.Binary64.Decimal

/-!
# Nearest magnitudes

Rounding to a rank is rounding to nearest with ties to even: a rank is passed exactly when the
quotient lies above the middle between the rank and the next one, or on it if the next rank is
even. Everything else about rounding follows from this, in particular that no magnitude is nearer
than the one that is chosen, and which quotients are too large for a finite number.

## Main definitions

* `Binary64.unitsOfRank` — the units of a rank, if there were no largest one.
* `Binary64.overflowBound` — the least number that is too large.

## Main results

* `Binary64.lt_nearestRank_iff` — which ranks lie below the nearest one.
* `Binary64.dist_nearestRank_le`, `Binary64.nearestRank_even` — no rank is nearer, and if another
  one is as near, the nearest one is even.
* `Binary64.ofQuotient_eq_infinite_iff` — which quotients are too large.
* `Binary64.Magnitude.exists_nearest_toPlaces` — a number rounded to decimal places and then to
  double precision rounds to the same decimal places.
-/

set_option autoImplicit false

namespace TypedNames

/-! ## Quotients rounded to natural numbers -/

/-- A number is passed exactly when the quotient lies above the middle to the next one, or on it if
the next one is even. -/
theorem lt_roundQuotient_iff {den : Nat} (pos : 0 < den) (num k : Nat) :
    k < roundQuotient num den ↔
      (2 * k + 1) * den < 2 * num ∨ (2 * k + 1) * den = 2 * num ∧ k % 2 = 1 := by
  have hmod := Nat.div_add_mod num den
  have hlt := Nat.mod_lt num pos
  rw [Nat.mul_comm den] at hmod
  rw [Nat.add_mul, Nat.mul_assoc, Nat.one_mul]
  unfold roundQuotient
  dsimp only
  generalize num / den = low at hmod ⊢
  generalize num % den = rest at hmod hlt ⊢
  rcases Nat.lt_trichotomy k low with h | rfl | h
  · have hmul : (k + 1) * den ≤ low * den := Nat.mul_le_mul_right _ h
    rw [Nat.add_mul] at hmul
    split
    · omega
    · split <;> omega
  · split
    · omega
    · split <;> omega
  · have hmul : (low + 1) * den ≤ k * den := Nat.mul_le_mul_right _ h
    rw [Nat.add_mul] at hmul
    split
    · omega
    · split <;> omega

/-- A quotient is rounded to the number that is less than half a unit away, or half a unit and
even. -/
theorem roundQuotient_eq_iff {den : Nat} (pos : 0 < den) (num n : Nat) :
    roundQuotient num den = n ↔ 2 * Nat.dist num (n * den) < den ∨
      2 * Nat.dist num (n * den) = den ∧ n % 2 = 0 := by
  have hle := lt_roundQuotient_iff pos num n
  unfold Nat.dist
  cases n with
  | zero =>
    rw [Nat.mul_zero, Nat.zero_add, Nat.one_mul] at hle
    rw [Nat.zero_mul]
    omega
  | succ n =>
    have hge := lt_roundQuotient_iff pos num n
    simp only [Nat.add_mul, Nat.mul_add, Nat.mul_assoc, Nat.one_mul] at hle hge ⊢
    omega

/-- What is no further from the rounded number than the quotient is rounded to the same number. -/
theorem roundQuotient_eq_of_dist_le {num other den : Nat} (pos : 0 < den)
    (le : Nat.dist other (roundQuotient num den * den) ≤
      Nat.dist num (roundQuotient num den * den)) :
    roundQuotient other den = roundQuotient num den := by
  rw [roundQuotient_eq_iff pos]
  rcases (roundQuotient_eq_iff pos num _).1 rfl with h | ⟨h, heven⟩
  · exact .inl (by omega)
  · rcases Nat.lt_or_eq_of_le le with hlt | heq
    · exact .inl (by omega)
    · exact .inr ⟨by omega, heven⟩

namespace Binary64

/-! ## Units of ranks -/

/-- There are units in one. -/
theorem unitsPerOne_pos : 0 < unitsPerOne := by
  obtain ⟨n, hn⟩ : ∃ n, n = 1074 := ⟨_, rfl⟩
  rw [unitsPerOne_eq hn]
  exact Nat.two_pow_pos n

/-- The units of the magnitude of a rank, if there were no largest one. -/
def unitsOfRank (rank : Nat) : Nat :=
  if rank < fractionSize then rank
  else (fractionSize + rank % fractionSize) * 2 ^ (rank / fractionSize - 1)

/-- The first rank has no units. -/
theorem unitsOfRank_zero : unitsOfRank 0 = 0 := rfl

/-- The units of a magnitude are those of its rank. -/
theorem Magnitude.units_eq (m : Magnitude) : m.units = unitsOfRank m.rank := rfl

/-- A rank is an exponent and a significand, whose first digit is there unless the exponent is
zero. The units are their product also where the significand has just become too long. -/
theorem unitsOfRank_eq {e s : Nat} (le : s ≤ 2 * fractionSize)
    (normal : e = 0 ∨ fractionSize ≤ s) : unitsOfRank (fractionSize * e + s) = s * 2 ^ e := by
  unfold unitsOfRank
  unfold fractionSize at *
  split
  · next h =>
    obtain rfl : e = 0 := by omega
    rw [Nat.mul_zero, Nat.zero_add, Nat.pow_zero, Nat.mul_one]
  · next h =>
    rcases Nat.lt_or_eq_of_le le with hlt | rfl
    · have hmod : 0x10000000000000 + (0x10000000000000 * e + s) % 0x10000000000000 = s := by omega
      have hdiv : (0x10000000000000 * e + s) / 0x10000000000000 - 1 = e := by omega
      rw [hmod, hdiv]
    · have hmod : (0x10000000000000 * e + 2 * 0x10000000000000) % 0x10000000000000 = 0 := by omega
      have hdiv : (0x10000000000000 * e + 2 * 0x10000000000000) / 0x10000000000000 - 1 = e + 1 := by
        omega
      rw [hmod, hdiv, Nat.add_zero, Nat.pow_succ]
      omega

/-- The next rank has the next significand. -/
theorem unitsOfRank_succ_eq {e s : Nat} (lt : s < 2 * fractionSize)
    (normal : e = 0 ∨ fractionSize ≤ s) :
    unitsOfRank (fractionSize * e + s + 1) = (s + 1) * 2 ^ e := by
  rw [Nat.add_assoc, unitsOfRank_eq lt (normal.imp id Nat.le_succ_of_le)]

/-- Every rank has an exponent and a significand. -/
theorem exists_rank_eq (rank : Nat) : ∃ e s, rank = fractionSize * e + s ∧ s < 2 * fractionSize ∧
    (e = 0 ∨ fractionSize ≤ s) := by
  refine ⟨rank / fractionSize - 1, rank - fractionSize * (rank / fractionSize - 1), ?_, ?_, ?_⟩
  all_goals
    unfold fractionSize
    omega

/-- Higher ranks have more units. -/
theorem unitsOfRank_strictMono : StrictMono unitsOfRank := by
  apply strictMono_nat_of_lt_succ
  intro rank
  obtain ⟨e, s, rfl, hlt, hnormal⟩ := exists_rank_eq rank
  rw [unitsOfRank_succ_eq hlt hnormal, unitsOfRank_eq (Nat.le_of_lt hlt) hnormal]
  exact Nat.mul_lt_mul_of_pos_right (Nat.lt_succ_self s) (Nat.two_pow_pos e)

/-! ## The nearest rank -/

/-- When all binary digits of a quotient beyond the first 53 are dropped, what is left has 53 of
them, or fewer if none was dropped. -/
theorem bounds_of_log2 {n den d : Nat} (pos : 0 < den) (h : (n / den).log2 - 52 = d) :
    n < 2 * fractionSize * (den * 2 ^ d) ∧ (d = 0 ∨ fractionSize * (den * 2 ^ d) ≤ n) := by
  have hpow (k : Nat) : 2 ^ (k + d) * den = 2 ^ k * (den * 2 ^ d) := by
    rw [Nat.pow_add, Nat.mul_assoc, Nat.mul_comm (2 ^ d)]
  constructor
  · have hlt : n / den < 2 ^ (53 + d) :=
      Nat.lt_of_lt_of_le Nat.lt_log2_self (Nat.pow_le_pow_right (by decide) (by omega))
    have hmul := (Nat.div_lt_iff_lt_mul pos).1 hlt
    rwa [hpow] at hmul
  · rcases Nat.eq_zero_or_pos d with hd | hd
    · exact .inl hd
    · have hne : n / den ≠ 0 := by
        intro e
        rw [e, Nat.log2_zero] at h
        omega
      have hle : 2 ^ (52 + d) ≤ n / den :=
        Nat.le_trans (Nat.pow_le_pow_right (by decide) (by omega)) (Nat.log2_self_le hne)
      have hmul := (Nat.le_div_iff_mul_le pos).1 hle
      rw [hpow] at hmul
      exact .inr hmul

/-- A unit is at most half of a unit with a larger exponent. -/
theorem two_mul_unit_le {den d e : Nat} (h : d < e) : 2 * (den * 2 ^ d) ≤ den * 2 ^ e := by
  rw [Nat.mul_left_comm, ← Nat.pow_succ']
  exact Nat.mul_le_mul_left _ (Nat.pow_le_pow_right (by decide) h)

/-- **A rank lies below the nearest one exactly when the quotient lies above the middle to the next
rank**, or on it if the next rank is even.

**Proof sketch.** The rank and the quotient each have an exponent. If these differ, the quotient
and the middle lie in different binades and so do the two ranks; if they are the same, both sides
are the same statement about significands. -/
theorem lt_nearestRank_iff {den : Nat} (pos : 0 < den) (num rank : Nat) :
    rank < nearestRank num den ↔
      (unitsOfRank rank + unitsOfRank (rank + 1)) * den < 2 * (unitsPerOne * num) ∨
        (unitsOfRank rank + unitsOfRank (rank + 1)) * den = 2 * (unitsPerOne * num) ∧
          rank % 2 = 1 := by
  unfold nearestRank
  dsimp only
  rw [Nat.pow_eq]
  generalize unitsPerOne * num = n
  obtain ⟨d, hd⟩ : ∃ d, (n / den).log2 - 52 = d := ⟨_, rfl⟩
  obtain ⟨hbelow, habove⟩ := bounds_of_log2 pos hd
  obtain ⟨e, s, rfl, hlt, hnormal⟩ := exists_rank_eq rank
  have hmid : (unitsOfRank (fractionSize * e + s) + unitsOfRank (fractionSize * e + s + 1)) * den =
      (2 * s + 1) * (den * 2 ^ e) := by
    rw [unitsOfRank_succ_eq hlt hnormal, unitsOfRank_eq (Nat.le_of_lt hlt) hnormal, ← Nat.add_mul,
      Nat.mul_assoc, Nat.mul_comm den, Nat.two_mul, Nat.add_assoc]
  rw [hmid, hd]
  have hpos (k : Nat) : 0 < den * 2 ^ k := Nat.mul_pos pos (Nat.two_pow_pos k)
  have hround (k : Nat) := lt_roundQuotient_iff (hpos d) n k
  have hle : roundQuotient n (den * 2 ^ d) ≤ 2 * fractionSize := by
    rw [← Nat.not_lt, hround, Nat.add_mul, Nat.mul_assoc]
    omega
  have hge : d = 0 ∨ fractionSize ≤ roundQuotient n (den * 2 ^ d) := by
    apply habove.imp id
    intro h
    have hpred := (hround (fractionSize - 1)).2
    have hone := hpos d
    unfold fractionSize at *
    omega
  rcases Nat.lt_trichotomy e d with h | rfl | h
  · have hpow : 2 * (den * 2 ^ e) ≤ den * 2 ^ d := two_mul_unit_le h
    have hs : (2 * s + 1) * (den * 2 ^ e) < 4 * fractionSize * (den * 2 ^ e) :=
      Nat.mul_lt_mul_of_pos_right (by omega) (hpos e)
    unfold fractionSize at *
    omega
  · rw [Nat.add_lt_add_iff_left, hround]
    unfold fractionSize at *
    omega
  · have hpow : 2 * (den * 2 ^ d) ≤ den * 2 ^ e := two_mul_unit_le h
    have hs : 2 * fractionSize * (den * 2 ^ e) ≤ (2 * s + 1) * (den * 2 ^ e) :=
      Nat.mul_le_mul_right _ (by omega)
    unfold fractionSize at *
    omega

/-- **No rank is nearer to a quotient than the nearest one.**

**Proof sketch.** Towards a lower rank the middle to the rank just below the nearest one has been
passed, and towards a higher one the middle to the rank just above it has not. -/
theorem dist_nearestRank_le {den : Nat} (pos : 0 < den) (num rank : Nat) :
    Nat.dist (unitsPerOne * num) (unitsOfRank (nearestRank num den) * den) ≤
      Nat.dist (unitsPerOne * num) (unitsOfRank rank * den) := by
  have hpassed (k : Nat) := lt_nearestRank_iff pos num k
  generalize nearestRank num den = nearest at hpassed ⊢
  generalize unitsPerOne * num = n at hpassed ⊢
  unfold Nat.dist
  rcases Nat.lt_trichotomy rank nearest with h | rfl | h
  · obtain ⟨below, rfl⟩ : ∃ below, nearest = below + 1 := ⟨nearest - 1, by omega⟩
    have hmid := (hpassed below).1 (Nat.lt_succ_self below)
    have hle : unitsOfRank rank * den ≤ unitsOfRank below * den :=
      Nat.mul_le_mul_right _ (unitsOfRank_strictMono.monotone (Nat.le_of_lt_succ h))
    have hnext : unitsOfRank below * den ≤ unitsOfRank (below + 1) * den :=
      Nat.mul_le_mul_right _ (unitsOfRank_strictMono.monotone (Nat.le_succ below))
    rw [Nat.add_mul] at hmid
    omega
  · exact Nat.le_refl _
  · have hmid := mt (hpassed nearest).2 (Nat.lt_irrefl nearest)
    have hle : unitsOfRank (nearest + 1) * den ≤ unitsOfRank rank * den :=
      Nat.mul_le_mul_right _ (unitsOfRank_strictMono.monotone h)
    have hnext : unitsOfRank nearest * den ≤ unitsOfRank (nearest + 1) * den :=
      Nat.mul_le_mul_right _ (unitsOfRank_strictMono.monotone (Nat.le_succ nearest))
    rw [Nat.add_mul] at hmid
    omega

/-- **If another rank is as near as the nearest one, then the nearest one is even.**

**Proof sketch.** The quotient lies on the middle between the two, so no rank lies between them, and
the middle has been passed upwards only from an odd rank. -/
theorem nearestRank_even {den : Nat} (pos : 0 < den) {num rank : Nat}
    (ne : rank ≠ nearestRank num den)
    (eq : Nat.dist (unitsPerOne * num) (unitsOfRank (nearestRank num den) * den) =
      Nat.dist (unitsPerOne * num) (unitsOfRank rank * den)) : nearestRank num den % 2 = 0 := by
  have hpassed (k : Nat) := lt_nearestRank_iff pos num k
  generalize nearestRank num den = nearest at hpassed ne eq ⊢
  generalize unitsPerOne * num = n at hpassed eq
  have hstrict {a b : Nat} (h : a < b) : unitsOfRank a * den < unitsOfRank b * den :=
    Nat.mul_lt_mul_of_pos_right (unitsOfRank_strictMono h) pos
  unfold Nat.dist at eq
  rcases Nat.lt_or_gt_of_ne ne with h | h
  · obtain ⟨below, rfl⟩ : ∃ below, nearest = below + 1 := ⟨nearest - 1, by omega⟩
    have hmid := (hpassed below).1 (Nat.lt_succ_self below)
    have hle : unitsOfRank rank * den ≤ unitsOfRank below * den :=
      Nat.mul_le_mul_right _ (unitsOfRank_strictMono.monotone (Nat.le_of_lt_succ h))
    have hnext : unitsOfRank below * den < unitsOfRank (below + 1) * den :=
      hstrict (Nat.lt_succ_self below)
    rw [Nat.add_mul] at hmid
    omega
  · have hmid := mt (hpassed nearest).2 (Nat.lt_irrefl nearest)
    have hle : unitsOfRank (nearest + 1) * den ≤ unitsOfRank rank * den :=
      Nat.mul_le_mul_right _ (unitsOfRank_strictMono.monotone h)
    have hnext : unitsOfRank nearest * den < unitsOfRank (nearest + 1) * den :=
      hstrict (Nat.lt_succ_self nearest)
    rw [Nat.add_mul] at hmid
    omega

/-- The nearest magnitude is the one of the nearest rank. -/
theorem Magnitude.nearest?_eq_some_iff {num den : Nat} {m : Magnitude} :
    nearest? num den = some m ↔ m.rank = nearestRank num den := by
  obtain ⟨rank, hrank⟩ := m
  unfold nearest?
  split
  · rw [Option.some.injEq, Magnitude.mk.injEq]
    exact eq_comm
  · next h =>
    constructor
    · intro e
      exact absurd e (by simp)
    · rintro rfl
      exact absurd hrank h

/-- There is no nearest magnitude exactly when the nearest rank is beyond the limit. -/
theorem Magnitude.nearest?_eq_none_iff {num den : Nat} :
    nearest? num den = none ↔ rankLimit ≤ nearestRank num den := by
  unfold nearest?
  split
  · next h =>
    rw [← Nat.not_lt]
    simp [h]
  · next h =>
    rw [← Nat.not_lt]
    simp [h]

/-! ## Overflow -/

/-- The least number that is too large for a finite number, `2¹⁰²⁴ - 2⁹⁷⁰`: it lies in the middle
between the largest finite number and the next power of two. -/
@[irreducible]
def overflowBound : Nat := Nat.pow 2 1024 - Nat.pow 2 970

/-- Twice the bound is the largest finite magnitude and the one that would come next. -/
theorem two_mul_overflowBound :
    2 * (unitsPerOne * overflowBound) = unitsOfRank (rankLimit - 1) + unitsOfRank rankLimit := by
  decide +kernel

/-- **A quotient has no nearest magnitude exactly when it reaches the bound.**

**Proof sketch.** The limit of ranks is even, so it is the nearest rank, or below it, exactly when
the quotient lies on the middle between the last rank and the limit or above it. -/
theorem rankLimit_le_nearestRank_iff {num den : Nat} (pos : 0 < den) :
    rankLimit ≤ nearestRank num den ↔ overflowBound * den ≤ num := by
  have hpassed := lt_nearestRank_iff pos num (rankLimit - 1)
  rw [Nat.sub_add_cancel (by decide), ← two_mul_overflowBound] at hpassed
  have hscaled : unitsPerOne * (overflowBound * den) ≤ unitsPerOne * num ↔
      overflowBound * den ≤ num := Nat.mul_le_mul_left_iff unitsPerOne_pos
  rw [← hscaled, ← Nat.mul_assoc]
  rw [Nat.mul_assoc 2] at hpassed
  unfold rankLimit at *
  omega

/-- **A quotient denotes an infinity exactly when it reaches the bound.** -/
theorem ofQuotient_eq_infinite_iff {negative : Bool} {num den : Nat} (pos : 0 < den) :
    ofQuotient negative num den = .infinite negative ↔ overflowBound * den ≤ num := by
  rw [ofQuotient_eq, ← rankLimit_le_nearestRank_iff pos, ← Magnitude.nearest?_eq_none_iff]
  cases Magnitude.nearest? num den <;> simp

/-- A quotient denotes a number exactly when it does not denote an infinity. -/
theorem isFinite_ofQuotient_iff {negative : Bool} {num den : Nat} :
    (ofQuotient negative num den).isFinite = true ↔
      ofQuotient negative num den ≠ .infinite negative := by
  rw [ofQuotient_eq]
  cases Magnitude.nearest? num den <;> simp [isFinite]

/-! ## Decimal places -/

namespace Magnitude

/-- Finite magnitudes are far below the bound, compared with a unit of the last decimal place. -/
theorem two_mul_units_lt (m : Magnitude) :
    2 * m.units + unitsPerOne < 2 * (unitsPerOne * overflowBound) := by
  have hle : m.units ≤ unitsOfRank (rankLimit - 1) := by
    rw [units_eq]
    exact unitsOfRank_strictMono.monotone (Nat.le_sub_one_of_lt m.rank_lt)
  have hlast : 2 * unitsOfRank (rankLimit - 1) + unitsPerOne <
      2 * (unitsPerOne * overflowBound) := by decide +kernel
  omega

/-- **A number rounded to decimal places and then to double precision rounds to the same decimal
places**, and stays finite.

**Proof sketch.** The magnitude itself is at most half a unit of the last place away from the
rounded decimal, and the nearest magnitude to the decimal is no further away. If it is just as far
and that is half a unit, the decimal is even for the one and so for the other. -/
theorem exists_nearest_toPlaces (m : Magnitude) (places : Nat) :
    ∃ m', nearest? (m.toPlaces places) (Nat.pow 10 places) = some m' ∧
      m'.toPlaces places = m.toPlaces places := by
  have hpow : 0 < Nat.pow 10 places := Nat.pow_pos (by decide)
  have hhalf : 2 * (m.toPlaces places * unitsPerOne) ≤
      2 * (m.units * Nat.pow 10 places) + unitsPerOne :=
    two_mul_roundQuotient_le (m.units * Nat.pow 10 places) unitsPerOne
  have hfinite : nearestRank (m.toPlaces places) (Nat.pow 10 places) < rankLimit := by
    rw [← Nat.not_le, rankLimit_le_nearestRank_iff hpow]
    intro hle
    have hbound : (2 * m.units + unitsPerOne) * Nat.pow 10 places <
        2 * (unitsPerOne * overflowBound) * Nat.pow 10 places :=
      Nat.mul_lt_mul_of_pos_right m.two_mul_units_lt hpow
    have hscaled : unitsPerOne * (overflowBound * Nat.pow 10 places) ≤
        unitsPerOne * m.toPlaces places := Nat.mul_le_mul_left _ hle
    have hunit : unitsPerOne ≤ unitsPerOne * Nat.pow 10 places := Nat.le_mul_of_pos_right _ hpow
    rw [Nat.add_mul, Nat.mul_assoc, Nat.mul_assoc 2, Nat.mul_assoc] at hbound
    rw [Nat.mul_comm (m.toPlaces places)] at hhalf
    omega
  refine ⟨⟨_, hfinite⟩, nearest?_eq_some_iff.2 rfl, ?_⟩
  have hnearest := dist_nearestRank_le hpow (m.toPlaces places) m.rank
  rw [Nat.dist_comm, Nat.dist_comm _ (unitsOfRank m.rank * _), Nat.mul_comm unitsPerOne,
    ← units_eq m] at hnearest
  exact roundQuotient_eq_of_dist_le unitsPerOne_pos hnearest

end Magnitude

end Binary64

end TypedNames
