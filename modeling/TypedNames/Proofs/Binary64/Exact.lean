import Mathlib.Algebra.Order.Field.Basic
import Mathlib.Algebra.Order.Ring.Abs
import Mathlib.Data.Rat.Cast.Order
import Mathlib.Tactic.FieldSimp
import Mathlib.Tactic.Linarith
import Mathlib.Tactic.Positivity
import TypedNames.Proofs.Binary64.Nearest

/-!
# Exact values

A finite number has a rational number as its exact value. What rounding does is said of these
values: a quotient is rounded to a nearest integer, or to a nearest number in double precision, and
of two that are equally near to the even one. Either is unique.

## Main definitions

* `IsRounded` — an integer is a rational number rounded.
* `Binary64.value` — the exact value of a finite number.
* `Binary64.IsNearest` — a number in double precision is nearest to a rational number.

## Main results

* `isRounded_roundQuotient` — quotients are rounded to integers.
* `Binary64.isNearest_ofQuotient` — quotients are rounded to double precision.
* `Binary64.equal_iff_value_eq` — finite numbers are equal exactly when their values are.
-/

set_option autoImplicit false

namespace TypedNames

/-! ## Rounding to integers -/

/-- **The integer is the rational number rounded**, a half to the even neighbour. -/
structure IsRounded (q : ℚ) (n : ℤ) : Prop where
  /-- It is at most a half away. -/
  le_half : |q - n| ≤ 1 / 2
  /-- If it is a half away, then it is even. -/
  even : |q - n| = 1 / 2 → Even n

namespace IsRounded

variable {q : ℚ} {m n : ℤ}

/-- Of two rounded integers none is larger: the number would be in the middle between them, and both
would be even. -/
theorem le (hm : IsRounded q m) (hn : IsRounded q n) : n ≤ m := by
  by_contra hlt
  rw [not_le] at hlt
  have hstep : (m : ℚ) + 1 ≤ n := by exact_mod_cast hlt
  have habove : q - m ≤ 1 / 2 := (abs_le.1 hm.le_half).2
  have hbelow : -(1 / 2) ≤ q - n := (abs_le.1 hn.le_half).1
  have heven : Even m := hm.even (by rw [abs_of_nonneg] <;> linarith)
  have heven' : Even n := hn.even (by rw [abs_of_nonpos] <;> linarith)
  have hnext : n = m + 1 := by
    have hcast : (n : ℚ) = m + 1 := by linarith
    exact_mod_cast hcast
  rw [hnext, Int.even_add_one] at heven'
  exact heven' heven

/-- **There is only one rounded integer.** -/
theorem unique (hm : IsRounded q m) (hn : IsRounded q n) : m = n :=
  le_antisymm (hn.le hm) (hm.le hn)

/-- Rounding does not depend on the sign. -/
theorem neg (h : IsRounded q n) : IsRounded (-q) (-n) := by
  have habs : |-q - ((-n : ℤ) : ℚ)| = |q - n| := by
    rw [Int.cast_neg, neg_sub_neg, abs_sub_comm]
  exact ⟨habs ▸ h.le_half, fun e => (h.even (habs ▸ e)).neg⟩

/-- An integer is rounded to itself. -/
theorem eq_of_intCast {k : ℤ} (h : IsRounded k n) : n = k :=
  h.unique ⟨by simp, fun e => by simp at e⟩

end IsRounded

/-- The distance of two quotients with one denominator. -/
theorem abs_div_sub_div {den : Nat} (pos : 0 < den) (a b : Nat) :
    |(a : ℚ) / den - b / den| = Nat.dist a b / den := by
  have hden : (0 : ℚ) < den := Nat.cast_pos.2 pos
  have hcast : |(a : ℚ) - b| = Nat.dist a b := by
    rcases Nat.le_total a b with h | h
    · rw [Nat.dist_eq_sub_of_le h, Nat.cast_sub h, abs_sub_comm,
        abs_of_nonneg (sub_nonneg.2 (Nat.cast_le.2 h))]
    · rw [Nat.dist_eq_sub_of_le_right h, Nat.cast_sub h,
        abs_of_nonneg (sub_nonneg.2 (Nat.cast_le.2 h))]
  rw [← sub_div, abs_div, abs_of_pos hden, hcast]

/-- **A quotient is rounded to an integer.** -/
theorem isRounded_roundQuotient {den : Nat} (pos : 0 < den) (num : Nat) :
    IsRounded ((num : ℚ) / den) (roundQuotient num den) := by
  have hden : (0 : ℚ) < den := Nat.cast_pos.2 pos
  have hdist : |(num : ℚ) / den - ((roundQuotient num den : Nat) : ℤ)| =
      Nat.dist num (roundQuotient num den * den) / den := by
    rw [← abs_div_sub_div pos, Nat.cast_mul, mul_div_cancel_right₀ _ hden.ne', Int.cast_natCast]
  have hround := (roundQuotient_eq_iff pos num _).1 rfl
  constructor
  · rw [hdist, div_le_div_iff₀ hden two_pos]
    have hle : Nat.dist num (roundQuotient num den * den) * 2 ≤ 1 * den := by omega
    exact_mod_cast hle
  · intro heq
    rw [hdist, div_eq_div_iff hden.ne' two_ne_zero] at heq
    have heq' : Nat.dist num (roundQuotient num den * den) * 2 = 1 * den := by exact_mod_cast heq
    rw [Int.even_coe_nat, Nat.even_iff]
    omega

namespace Binary64

/-! ## Values -/

/-- There are units in one. -/
theorem unitsPerOne_cast_pos : (0 : ℚ) < unitsPerOne :=
  Nat.cast_pos.2 unitsPerOne_pos

/-- The exact value of a magnitude. -/
def Magnitude.value (m : Magnitude) : ℚ :=
  m.units / unitsPerOne

/-- A number with a sign. -/
def signed (negative : Bool) (q : ℚ) : ℚ :=
  if negative then -q else q

/-- The exact value of a finite number. Other numbers have none, and zero stands for it. -/
def value : Binary64 → ℚ
  | .finite negative m => signed negative m.value
  | _ => 0

/-- Whether the last binary digit of a finite number is zero. -/
def HasEvenRank : Binary64 → Prop
  | .finite _ m => m.rank % 2 = 0
  | _ => False

/-- **The number in double precision is nearest to the rational number**, and even if another one is
just as near. -/
structure IsNearest (q : ℚ) (x : Binary64) : Prop where
  /-- It is finite. -/
  finite : x.isFinite = true
  /-- No finite number is nearer. -/
  le : ∀ y : Binary64, y.isFinite = true → |q - x.value| ≤ |q - y.value|
  /-- If another one is as near, then it is even. -/
  even : ∀ y : Binary64, y.isFinite = true → y.value ≠ x.value → |q - x.value| = |q - y.value| →
    x.HasEvenRank

/-- Magnitudes have no negative value. -/
theorem Magnitude.value_nonneg (m : Magnitude) : 0 ≤ m.value :=
  div_nonneg (Nat.cast_nonneg _) unitsPerOne_cast_pos.le

/-- Magnitudes with the same rank are the same. -/
theorem Magnitude.rank_inj {m m' : Magnitude} : m.rank = m'.rank ↔ m = m' := by
  cases m
  cases m'
  rw [Magnitude.mk.injEq]

/-- Magnitudes with the same value are the same. -/
theorem Magnitude.value_injective {m m' : Magnitude} (h : m.value = m'.value) : m = m' := by
  have hunits : (m.units : ℚ) = m'.units :=
    (div_left_inj' unitsPerOne_cast_pos.ne').1 h
  exact rank_inj.1 (unitsOfRank_strictMono.injective (by exact_mod_cast hunits))

/-! ## Rounding to double precision -/

namespace Magnitude

variable {num den : Nat} {m m' : Magnitude}

/-- The distance of a quotient from the value of a magnitude. -/
theorem abs_sub_value (pos : 0 < den) (num : Nat) (m : Magnitude) :
    |(num : ℚ) / den - m.value| =
      Nat.dist (unitsPerOne * num) (m.units * den) / ((unitsPerOne * den : Nat) : ℚ) := by
  have hden : (den : ℚ) ≠ 0 := (Nat.cast_pos.2 pos).ne'
  have hunits : (unitsPerOne : ℚ) ≠ 0 := unitsPerOne_cast_pos.ne'
  rw [← abs_div_sub_div (Nat.mul_pos unitsPerOne_pos pos), value]
  push_cast
  rw [mul_div_mul_left _ _ hunits, mul_div_mul_right _ _ hden]

/-- No magnitude is nearer to a quotient than the nearest one. -/
theorem abs_sub_value_le (pos : 0 < den) (h : nearest? num den = some m) (m' : Magnitude) :
    |(num : ℚ) / den - m.value| ≤ |(num : ℚ) / den - m'.value| := by
  have hdist := dist_nearestRank_le pos num m'.rank
  rw [← nearest?_eq_some_iff.1 h, ← units_eq, ← units_eq] at hdist
  rw [abs_sub_value pos, abs_sub_value pos]
  exact div_le_div_of_nonneg_right (Nat.cast_le.2 hdist) (Nat.cast_nonneg _)

/-- If another magnitude is as near as the nearest one, then the nearest one is even. -/
theorem even_of_abs_sub_value_eq (pos : 0 < den) (h : nearest? num den = some m) (ne : m' ≠ m)
    (eq : |(num : ℚ) / den - m.value| = |(num : ℚ) / den - m'.value|) : m.rank % 2 = 0 := by
  have hcast : ((unitsPerOne * den : Nat) : ℚ) ≠ 0 :=
    (Nat.cast_pos.2 (Nat.mul_pos unitsPerOne_pos pos)).ne'
  rw [abs_sub_value pos, abs_sub_value pos, div_left_inj' hcast, Nat.cast_inj, units_eq, units_eq,
    nearest?_eq_some_iff.1 h] at eq
  rw [nearest?_eq_some_iff.1 h]
  refine nearestRank_even pos (fun e => ne ?_) eq
  rw [← nearest?_eq_some_iff.1 h] at e
  exact rank_inj.1 e

end Magnitude

/-- A number with a sign is less than zero if it has a minus and is not zero. -/
theorem signed_lt_zero_iff {q : ℚ} (nonneg : 0 ≤ q) (negative : Bool) :
    signed negative q < 0 ↔ negative = true ∧ q ≠ 0 := by
  cases negative
  · simpa [signed] using nonneg
  · simp [signed, nonneg.lt_iff_ne']

/-- The sign does not change the magnitude. -/
theorem abs_signed {q : ℚ} (nonneg : 0 ≤ q) (negative : Bool) : |signed negative q| = q := by
  cases negative
  · exact abs_of_nonneg nonneg
  · rw [signed, if_pos rfl, abs_neg, abs_of_nonneg nonneg]

/-- The sign of a quotient is that of its numerator. -/
theorem signed_div (negative : Bool) (p q : ℚ) :
    signed negative p / q = signed negative (p / q) := by
  cases negative
  · rfl
  · exact neg_div q p

/-- Signs do not change distances. -/
theorem abs_signed_sub (negative : Bool) (p q : ℚ) :
    |signed negative p - signed negative q| = |p - q| := by
  cases negative
  · rfl
  · rw [signed, signed, if_pos rfl, if_pos rfl, neg_sub_neg, abs_sub_comm]

/-- A number of the other sign is no nearer. -/
theorem abs_sub_le_abs_signed_sub {p q : ℚ} (hp : 0 ≤ p) (hq : 0 ≤ q) (negative other : Bool) :
    |p - q| ≤ |signed negative p - signed other q| := by
  have hle : |p - q| ≤ |p + q| := by
    rw [abs_of_nonneg (add_nonneg hp hq), abs_le]
    constructor <;> linarith
  cases negative <;> cases other <;> simp only [signed, if_true, Bool.false_eq_true, if_false]
  · exact le_rfl
  · rwa [sub_neg_eq_add]
  · rwa [← neg_add', abs_neg]
  · rw [neg_sub_neg, abs_sub_comm]

/-- A number of the other sign is as near only to zero, or if it is zero itself. -/
theorem eq_zero_of_abs_signed_sub_eq {p q : ℚ} (hp : 0 ≤ p) (hq : 0 < q) {negative other : Bool}
    (ne : other ≠ negative) (eq : |p - q| = |signed negative p - signed other q|) : p = 0 := by
  have hsum : |signed negative p - signed other q| = p + q := by
    rw [← abs_of_pos (add_pos_of_nonneg_of_pos hp hq)]
    cases negative <;> cases other
    · exact absurd rfl ne
    · rw [signed, signed, if_pos rfl, if_neg Bool.false_ne_true, sub_neg_eq_add]
    · rw [signed, signed, if_pos rfl, if_neg Bool.false_ne_true, ← neg_add', abs_neg]
    · exact absurd rfl ne
  rw [hsum] at eq
  rcases le_total q p with h | h
  · rw [abs_of_nonneg (sub_nonneg.2 h)] at eq
    linarith
  · rw [abs_of_nonpos (sub_nonpos.2 h)] at eq
    linarith

/-- Finite numbers have a sign and a magnitude. -/
theorem exists_of_isFinite {x : Binary64} (h : x.isFinite = true) :
    ∃ negative m, x = .finite negative m := by
  cases x with
  | finite negative m => exact ⟨negative, m, rfl⟩
  | infinite negative => cases h
  | nan => cases h

/-- **The number nearest to a quotient is nearest to it**, with either sign.

**Proof sketch.** A number of the other sign is no nearer than the one with its magnitude. If it is
as near as the nearest one and has the same magnitude, the quotient is zero, and so are both. -/
theorem isNearest_ofQuotient {num den : Nat} (pos : 0 < den) {m : Magnitude}
    (h : Magnitude.nearest? num den = some m) (negative : Bool) :
    IsNearest (signed negative (num / den)) (.finite negative m) := by
  have hnonneg : (0 : ℚ) ≤ num / den := div_nonneg (Nat.cast_nonneg _) (Nat.cast_nonneg _)
  have hself : |signed negative (num / den) - (Binary64.finite negative m).value| =
      |(num : ℚ) / den - m.value| := abs_signed_sub negative _ _
  refine ⟨rfl, fun y hy => ?_, fun y hy hne heq => ?_⟩
  · obtain ⟨other, m', rfl⟩ := exists_of_isFinite hy
    rw [hself]
    exact (Magnitude.abs_sub_value_le pos h m').trans
      (abs_sub_le_abs_signed_sub hnonneg m'.value_nonneg negative other)
  · obtain ⟨other, m', rfl⟩ := exists_of_isFinite hy
    rw [hself] at heq
    have hle := Magnitude.abs_sub_value_le pos h m'
    have hge := abs_sub_le_abs_signed_sub hnonneg m'.value_nonneg negative other
    have hmagnitude : |(num : ℚ) / den - m.value| = |(num : ℚ) / den - m'.value| :=
      le_antisymm hle (heq ▸ hge)
    by_cases hm : m' = m
    · subst hm
      have hsign : other ≠ negative := fun e => hne (by rw [e])
      have hpositive : 0 < m'.value := by
        refine m'.value_nonneg.lt_of_ne' fun e => hne ?_
        simp only [value, signed, e, neg_zero, ite_self]
      have hzero : (num : ℚ) / den = 0 := eq_zero_of_abs_signed_sub_eq hnonneg hpositive hsign heq
      have hcloser := Magnitude.abs_sub_value_le pos h .zero
      have hvalue : Magnitude.zero.value = 0 := by
        rw [Magnitude.value, Magnitude.units_zero, Nat.cast_zero, zero_div]
      rw [hzero, hvalue, sub_zero, abs_zero, zero_sub, abs_neg, abs_of_pos hpositive] at hcloser
      exact absurd hpositive hcloser.not_gt
    · exact Magnitude.even_of_abs_sub_value_eq pos h hm hmagnitude

/-! ## Equality -/

/-- Two numbers with signs are equal when they are equal without them, and so are the signs unless
the numbers are zero. -/
theorem signed_eq_signed_iff {p q : ℚ} (hp : 0 ≤ p) (hq : 0 ≤ q) {s t : Bool} :
    signed s p = signed t q ↔ p = q ∧ (s = t ∨ p = 0) := by
  have hmixed : p = -q ↔ p = q ∧ p = 0 := by
    constructor
    · intro h
      constructor <;> linarith
    · rintro ⟨h, h0⟩
      linarith
  cases s <;> cases t
  · simp [signed]
  · simpa [signed] using hmixed
  · simpa [signed, neg_eq_iff_eq_neg] using hmixed
  · simp [signed]

/-- **Finite numbers are equal exactly when their values are.** -/
theorem equal_iff_value_eq {x y : Binary64} (hx : x.isFinite = true) (hy : y.isFinite = true) :
    x.equal y = true ↔ x.value = y.value := by
  obtain ⟨s, m, rfl⟩ := exists_of_isFinite hx
  obtain ⟨t, n, rfl⟩ := exists_of_isFinite hy
  have hrank : m.rank = n.rank ↔ m.value = n.value := by
    rw [Magnitude.rank_inj]
    exact ⟨congrArg Magnitude.value, Magnitude.value_injective⟩
  have hzero : m.rank = 0 ↔ m.value = 0 := by
    rw [Magnitude.value, div_eq_zero_iff, or_iff_left unitsPerOne_cast_pos.ne', Nat.cast_eq_zero,
      Magnitude.units_eq, ← unitsOfRank_strictMono.injective.eq_iff, unitsOfRank_zero]
  rw [value, value, signed_eq_signed_iff m.value_nonneg n.value_nonneg, ← hrank, ← hzero]
  simp [equal]

/-! ## One rounding after another -/

section Rounded

variable {unit : ℚ} {v x : Binary64} {n : ℤ}

/-- A number rounded to units and then to double precision moves by at most one unit.

**Proof sketch.** It moves by at most half a unit to the rounded number. It is in double precision
itself, so the nearest number is no further from there. -/
theorem abs_value_sub_le (pos : 0 < unit) (hv : v.isFinite = true)
    (rounded : IsRounded (v.value * unit) n) (nearest : IsNearest (n / unit) x) :
    |x.value - v.value| ≤ 1 / unit := by
  have hhalf : |n / unit - v.value| ≤ 1 / 2 / unit := by
    have hdiv : n / unit - v.value = -((v.value * unit - n) / unit) := by
      field_simp
      linarith
    rw [hdiv, abs_neg, abs_div, abs_of_pos pos]
    exact div_le_div_of_nonneg_right rounded.le_half pos.le
  calc |x.value - v.value| ≤ |x.value - n / unit| + |n / unit - v.value| := abs_sub_le _ _ _
    _ ≤ |n / unit - v.value| + |n / unit - v.value| := by
      rw [abs_sub_comm]
      exact add_le_add_left (nearest.le v hv) _
    _ ≤ 1 / 2 / unit + 1 / 2 / unit := add_le_add hhalf hhalf
    _ = 1 / unit := by rw [← add_div, add_halves]

/-- A number of whole units does not move. -/
theorem value_eq_of_intCast (pos : 0 < unit) (hv : v.isFinite = true)
    (rounded : IsRounded (v.value * unit) n) (nearest : IsNearest (n / unit) x)
    (whole : ∃ k : ℤ, v.value = k / unit) : x.value = v.value := by
  obtain ⟨k, hk⟩ := whole
  rw [hk, div_mul_cancel₀ _ pos.ne'] at rounded
  have hle := nearest.le v hv
  rw [rounded.eq_of_intCast, ← hk, sub_self, abs_zero] at hle
  exact (sub_eq_zero.1 (abs_eq_zero.1 (le_antisymm hle (abs_nonneg _)))).symm

end Rounded

end Binary64

end TypedNames
