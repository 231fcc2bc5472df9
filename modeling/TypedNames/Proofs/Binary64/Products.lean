import TypedNames.Proofs.Binary64.Nearest

/-!
# Products and quotients that stay finite

Rounding is monotone: a quotient that is not larger has no larger nearest rank. So whether a rounded
product or quotient is finite depends on the exact values of its arguments alone, and smaller
arguments stay finite where larger ones do.

## Main results

* `Binary64.nearestRank_mono` — rounding is monotone.
* `Binary64.Magnitude.isSome_nearest?_iff`, `Binary64.Magnitude.isSome_mul?_iff` — when there is a
  nearest magnitude, and when there is a product.
* `Binary64.Magnitude.isSome_div?` — a quotient by one or more is finite.
-/

set_option autoImplicit false

namespace TypedNames.Binary64

/-- **Rounding is monotone.**

**Proof sketch.** A rank below the first nearest rank has its middle to the next rank passed by the
first quotient. The second quotient, which is not less, passes it as well, or lies on it only if
the first one does. -/
theorem nearestRank_mono {num den num' den' : Nat} (pos : 0 < den) (pos' : 0 < den')
    (le : num * den' ≤ num' * den) : nearestRank num den ≤ nearestRank num' den' := by
  apply Nat.le_of_not_lt
  intro hlt
  have hpassed := (lt_nearestRank_iff pos num _).1 hlt
  have hnot := mt (lt_nearestRank_iff pos' num' _).2 (Nat.lt_irrefl (nearestRank num' den'))
  generalize unitsOfRank (nearestRank num' den') + unitsOfRank (nearestRank num' den' + 1) = mid
    at hpassed hnot
  have hscaled : 2 * (unitsPerOne * num) * den' ≤ 2 * (unitsPerOne * num') * den := by
    rw [Nat.mul_assoc, Nat.mul_assoc, Nat.mul_assoc, Nat.mul_assoc]
    exact Nat.mul_le_mul_left 2 (Nat.mul_le_mul_left unitsPerOne le)
  have hswap : mid * den' * den = mid * den * den' := Nat.mul_right_comm mid den' den
  apply hnot
  rcases hpassed with h | ⟨h, hodd⟩
  · left
    apply Nat.lt_of_mul_lt_mul_right (a := den)
    calc mid * den' * den = mid * den * den' := hswap
      _ < 2 * (unitsPerOne * num) * den' := Nat.mul_lt_mul_of_pos_right h pos'
      _ ≤ 2 * (unitsPerOne * num') * den := hscaled
  · have hle : mid * den' ≤ 2 * (unitsPerOne * num') := by
      apply Nat.le_of_mul_le_mul_right _ pos
      calc mid * den' * den = mid * den * den' := hswap
        _ = 2 * (unitsPerOne * num) * den' := by rw [h]
        _ ≤ 2 * (unitsPerOne * num') * den := hscaled
    rcases Nat.lt_or_eq_of_le hle with hlt | heq
    · exact .inl hlt
    · exact .inr ⟨heq, hodd⟩

namespace Magnitude

variable {a b : Magnitude} {num den num' den' : Nat}

/-- A magnitude nearest to a larger quotient has no fewer units. -/
theorem units_le_of_nearest? (pos : 0 < den) (pos' : 0 < den') (le : num * den' ≤ num' * den)
    (ha : nearest? num den = some a) (hb : nearest? num' den' = some b) : a.units ≤ b.units := by
  rw [units_eq, units_eq, nearest?_eq_some_iff.1 ha, nearest?_eq_some_iff.1 hb]
  exact unitsOfRank_strictMono.monotone (nearestRank_mono pos pos' le)

/-- **There is a nearest magnitude exactly when the quotient is below the bound.** -/
theorem isSome_nearest?_iff (pos : 0 < den) :
    (nearest? num den).isSome = true ↔ num < overflowBound * den := by
  rw [← not_iff_not, Nat.not_lt, ← rankLimit_le_nearestRank_iff pos, ← nearest?_eq_none_iff]
  cases nearest? num den <;> simp

/-- **There is a product exactly when the exact one is below the bound.** -/
theorem isSome_mul?_iff :
    (a.mul? b).isSome = true ↔ a.units * b.units < overflowBound * (unitsPerOne * unitsPerOne) :=
  isSome_nearest?_iff (Nat.mul_pos unitsPerOne_pos unitsPerOne_pos)

/-- Smaller factors have a product where larger ones have one. -/
theorem isSome_mul?_mono {a' b' : Magnitude} (ha : a.units ≤ a'.units) (hb : b.units ≤ b'.units)
    (h : (a'.mul? b').isSome = true) : (a.mul? b).isSome = true :=
  isSome_mul?_iff.2 (Nat.lt_of_le_of_lt (Nat.mul_le_mul ha hb) (isSome_mul?_iff.1 h))

/-- A magnitude is below the bound. -/
theorem units_lt (m : Magnitude) : m.units < unitsPerOne * overflowBound := by
  have h := m.two_mul_units_lt
  omega

/-- **A quotient by one or more is finite.** -/
theorem isSome_div? (one_le : unitsPerOne ≤ b.units) : (a.div? b).isSome = true := by
  apply (isSome_nearest?_iff (Nat.lt_of_lt_of_le unitsPerOne_pos one_le)).2
  calc a.units < unitsPerOne * overflowBound := a.units_lt
    _ = overflowBound * unitsPerOne := Nat.mul_comm _ _
    _ ≤ overflowBound * b.units := Nat.mul_le_mul_left _ one_le

end Magnitude

end TypedNames.Binary64
