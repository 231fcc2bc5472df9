import TypedNames.Binary64.Basic

/-!
# Rounding to double precision

The magnitude nearest to a quotient of natural numbers, where a tie goes to the even rank.
Counted in units of the least positive number, the quotient has some number of binary digits; all
digits beyond the first 53 are rounded away, and what is left together with how many were dropped
is the rank.

## Main definitions

* `roundQuotient` — a quotient rounded to a natural number, ties to even.
* `Binary64.nearestRank` — the rank of the nearest magnitude, where none is the largest.
* `Binary64.Magnitude.nearest?` — the nearest magnitude, if the quotient is not too large.
* `Binary64.ofQuotient` — the nearest number, an infinity if the quotient is too large.
* `Binary64.Magnitude.mul?`, `Binary64.Magnitude.div?` — product and quotient, rounded.

## Implementation notes

In a product with a large constant the constant stands on the left: multiplication recurses on its
right factor, and with the constant there a term would unfold as often as the constant says.
-/

set_option autoImplicit false

namespace TypedNames

/-- The quotient of two natural numbers rounded to the nearest, a half to the even neighbour. -/
def roundQuotient (num den : Nat) : Nat :=
  let low := num / den
  let rest := num % den
  if 2 * rest < den then low
  else if den < 2 * rest then low + 1
  else low + low % 2

namespace Binary64

/-- The rank of the magnitude nearest to `num / den` if there were no largest one. -/
def nearestRank (num den : Nat) : Nat :=
  let dropped := (unitsPerOne * num / den).log2 - 52
  fractionSize * dropped + roundQuotient (unitsPerOne * num) (den * Nat.pow 2 dropped)

namespace Magnitude

/-- The magnitude nearest to `num / den`; there is none if the quotient is too large. -/
def nearest? (num den : Nat) : Option Magnitude :=
  if h : nearestRank num den < rankLimit then some ⟨nearestRank num den, h⟩ else none

/-- The product of two magnitudes, rounded. -/
def mul? (a b : Magnitude) : Option Magnitude :=
  nearest? (a.units * b.units) (unitsPerOne * unitsPerOne)

/-- The quotient of two magnitudes, rounded. -/
def div? (a b : Magnitude) : Option Magnitude :=
  nearest? a.units b.units

end Magnitude

/-- The number nearest to the quotient `num / den` with the given sign. -/
def ofQuotient (negative : Bool) (num den : Nat) : Binary64 :=
  match Magnitude.nearest? num den with
  | some m => .finite negative m
  | none => .infinite negative

/-- The number equal to an integer of 64 bits, if there is one. -/
def ofInt64? (i : Int64) : Option Binary64 :=
  match Magnitude.nearest? i.toInt.natAbs 1 with
  | some m =>
    if m.units = unitsPerOne * i.toInt.natAbs then some (.finite (i.toInt < 0) m) else none
  | none => none

end Binary64

/-- Rounding moves by at most half a unit. -/
theorem two_mul_roundQuotient_le (num den : Nat) :
    2 * (roundQuotient num den * den) ≤ 2 * num + den := by
  have h := Nat.div_add_mod num den
  have hm : den * (num / den) = num / den * den := Nat.mul_comm _ _
  unfold roundQuotient
  dsimp only
  split
  · omega
  · split
    · rw [Nat.add_mul]; omega
    · rcases Nat.mod_two_eq_zero_or_one (num / den) with e | e
      · rw [e, Nat.add_zero]; omega
      · rw [e, Nat.add_mul]; omega

/-- Rounding moves by at most half a unit. -/
theorem two_mul_le_roundQuotient (num : Nat) {den : Nat} (pos : 0 < den) :
    2 * num ≤ 2 * (roundQuotient num den * den) + den := by
  have h := Nat.div_add_mod num den
  have hm : den * (num / den) = num / den * den := Nat.mul_comm _ _
  have hlt := Nat.mod_lt num pos
  unfold roundQuotient
  dsimp only
  split
  · omega
  · split
    · rw [Nat.add_mul]; omega
    · rcases Nat.mod_two_eq_zero_or_one (num / den) with e | e
      · rw [e, Nat.add_zero]; omega
      · rw [e, Nat.add_mul]; omega

end TypedNames
