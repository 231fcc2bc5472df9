/-!
# Double precision numbers

The numbers of the IEEE 754 format binary64, as exact values. A finite number is a sign and a
magnitude, and a magnitude is its rank among the finite magnitudes: the exponent and fraction
fields of the format, read as one number. Consecutive ranks are neighbouring numbers, so order,
rounding and the text of a number are questions about natural numbers.

All finite magnitudes are multiples of the least positive one, `2⁻¹⁰⁷⁴`.

## Main definitions

* `Binary64` — a number of the format; all NaNs are one.
* `Binary64.Magnitude.units` — a magnitude as a multiple of `2⁻¹⁰⁷⁴`.
* `Binary64.equal` — equality as numbers: NaN equals nothing, the two zeros are equal.
-/

set_option autoImplicit false

namespace TypedNames

namespace Binary64

/-- The number of magnitudes with one exponent, `2⁵²`. -/
abbrev fractionSize : Nat := 0x10000000000000

/-- The number of finite magnitudes: there are 2047 exponents. -/
abbrev rankLimit : Nat := 0x7FF0000000000000

/-- The number of units of the least positive number in one, `2¹⁰⁷⁴`. -/
@[irreducible]
def unitsPerOne : Nat := Nat.pow 2 1074

/-- A finite magnitude, given by its rank. -/
structure Magnitude where
  /-- How many magnitudes are less. -/
  rank : Nat
  rank_lt : rank < rankLimit
  deriving DecidableEq

namespace Magnitude

/-- The magnitude as a multiple of `2⁻¹⁰⁷⁴`. -/
def units (m : Magnitude) : Nat :=
  if m.rank < fractionSize then m.rank
  else (fractionSize + m.rank % fractionSize) * Nat.pow 2 (m.rank / fractionSize - 1)

/-- The magnitude zero. -/
def zero : Magnitude where
  rank := 0
  rank_lt := by decide

/-- The units of zero. -/
@[simp]
theorem units_zero : zero.units = 0 := by decide

end Magnitude

end Binary64

/-- A double precision number. -/
inductive Binary64
  /-- Not a number. -/
  | nan
  /-- An infinity. -/
  | infinite (negative : Bool)
  /-- A finite number; zero has both signs. -/
  | finite (negative : Bool) (magnitude : Binary64.Magnitude)
  deriving DecidableEq

namespace Binary64

/-- Whether the number is finite. -/
def isFinite : Binary64 → Bool
  | .finite _ _ => true
  | _ => false

/-- Equality of numbers: NaN differs from everything, and zero equals zero whatever its sign. -/
def equal : Binary64 → Binary64 → Bool
  | .finite s m, .finite t n => m.rank == n.rank && (s == t || m.rank == 0)
  | .infinite s, .infinite t => s == t
  | _, _ => false

/-- The name of a number that is not finite. -/
def specialName : Binary64 → String
  | .infinite negative => if negative then "-inf" else "inf"
  | _ => "NaN"

end Binary64

end TypedNames
