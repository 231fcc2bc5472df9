import TypedNames.Proofs.Binary64.Drift
import TypedNames.Proofs.Binary64.Products

/-!
# Integers in double precision

A natural number is a number in double precision exactly if it has at most 53 binary digits in front
of its zeros. Whether an integer of 64 bits is one can be seen from rounding alone: it is turned
into the nearest number and that one is turned back. Above `2⁵³` all numbers in double precision are
integers, so nothing is cut off on the way back, and a value that was rounded shows as another
integer. The integers just below `2⁶³` are rounded to a power of two that has no 64 bits any more,
so the way back must lead into a larger range.

## Main definitions

* `Binary64.FitsSignificand` — a natural number has few enough binary digits.
* `Binary64.widen` — the number nearest to an integer of 64 bits.
* `Binary64.truncate` — a number without its fraction as an integer of 128 bits.

## Main results

* `Binary64.exists_units_eq_iff` — which natural numbers are magnitudes.
* `Binary64.exists_value_eq_iff` — which integers are numbers in double precision.
* `Binary64.ofInt64?_eq_none_iff` — which integers no number equals.
* `Binary64.ofInt64?_eq_widen` — an integer is a number if it comes back from the nearest one.
* `Binary64.value_widen_eq_iff` — which integers are rounded to `2⁶³`.
-/

set_option autoImplicit false

namespace TypedNames.Binary64

/-! ## Significands -/

/-- **The natural number fits into a significand**: it has at most 53 binary digits in front of its
zeros. -/
def FitsSignificand (n : Nat) : Prop :=
  ∃ s k, n = s * 2 ^ k ∧ s < 2 ^ 53

/-- Small numbers fit as they are. -/
theorem fitsSignificand_of_lt {n : Nat} (lt : n < 2 ^ 53) : FitsSignificand n :=
  ⟨n, 0, (Nat.mul_one n).symm, lt⟩

/-- Powers of two fit. -/
theorem fitsSignificand_two_pow (k : Nat) : FitsSignificand (2 ^ k) :=
  ⟨1, k, (Nat.one_mul _).symm, by decide⟩

/-- A factor that is a power of two makes no difference. -/
theorem fitsSignificand_two_pow_mul_iff {p n : Nat} :
    FitsSignificand (2 ^ p * n) ↔ FitsSignificand n := by
  constructor
  · rintro ⟨s, k, hn, hs⟩
    rcases Nat.le_total p k with h | h
    · obtain ⟨l, rfl⟩ := Nat.exists_eq_add_of_le h
      rw [Nat.pow_add, Nat.mul_left_comm] at hn
      exact ⟨s, l, Nat.eq_of_mul_eq_mul_left (Nat.two_pow_pos p) hn, hs⟩
    · obtain ⟨l, rfl⟩ := Nat.exists_eq_add_of_le h
      rw [Nat.pow_add, Nat.mul_assoc, Nat.mul_comm s] at hn
      have hs' : 2 ^ l * n = s := Nat.eq_of_mul_eq_mul_left (Nat.two_pow_pos k) hn
      have hle : n ≤ 2 ^ l * n := Nat.le_mul_of_pos_left n (Nat.two_pow_pos l)
      exact fitsSignificand_of_lt (Nat.lt_of_le_of_lt (hs' ▸ hle) hs)
  · rintro ⟨s, k, rfl, hs⟩
    exact ⟨s, p + k, by rw [Nat.pow_add]; ring, hs⟩

/-- The units of every rank fit into a significand. -/
theorem fitsSignificand_unitsOfRank (rank : Nat) : FitsSignificand (unitsOfRank rank) := by
  obtain ⟨e, s, rfl, hlt, hnormal⟩ := exists_rank_eq rank
  exact ⟨s, e, unitsOfRank_eq (Nat.le_of_lt hlt) hnormal, hlt⟩

/-- What fits into a significand are the units of a rank. A significand with too few digits takes
them from the power of two. -/
theorem exists_unitsOfRank_eq {s : Nat} (lt : s < 2 ^ 53) (k : Nat) :
    ∃ rank, unitsOfRank rank = s * 2 ^ k := by
  induction k generalizing s with
  | zero => exact ⟨fractionSize * 0 + s, unitsOfRank_eq (Nat.le_of_lt lt) (.inl rfl)⟩
  | succ k ih =>
    by_cases h : fractionSize ≤ s
    · exact ⟨fractionSize * (k + 1) + s, unitsOfRank_eq (Nat.le_of_lt lt) (.inr h)⟩
    · obtain ⟨rank, hrank⟩ := ih (s := 2 * s) (by unfold fractionSize at h; omega)
      exact ⟨rank, by rw [hrank, Nat.pow_succ]; ring⟩

/-- The units of the limit of ranks are beyond the bound. -/
theorem overflowBound_lt : unitsPerOne * overflowBound < unitsOfRank rankLimit := by
  have hmid := two_mul_overflowBound
  have hlt : unitsOfRank (rankLimit - 1) < unitsOfRank rankLimit :=
    unitsOfRank_strictMono (by decide)
  omega

/-- **The natural numbers that are magnitudes** are those that fit into a significand. -/
theorem exists_units_eq_iff {n : Nat} (lt : n < overflowBound) :
    (∃ m : Magnitude, m.units = unitsPerOne * n) ↔ FitsSignificand n := by
  obtain ⟨p, hp⟩ : ∃ p, p = 1074 := ⟨_, rfl⟩
  constructor
  · rintro ⟨m, hm⟩
    have hfits := fitsSignificand_unitsOfRank m.rank
    rwa [← Magnitude.units_eq, hm, unitsPerOne_eq hp, fitsSignificand_two_pow_mul_iff] at hfits
  · intro hfits
    rw [← fitsSignificand_two_pow_mul_iff (p := p), ← unitsPerOne_eq hp] at hfits
    obtain ⟨s, k, hn, hs⟩ := hfits
    obtain ⟨rank, hrank⟩ := exists_unitsOfRank_eq hs k
    rw [← hn] at hrank
    have hlt : unitsOfRank rank < unitsOfRank rankLimit := by
      rw [hrank]
      exact Nat.lt_trans (Nat.mul_lt_mul_of_pos_left lt unitsPerOne_pos) overflowBound_lt
    exact ⟨⟨rank, unitsOfRank_strictMono.lt_iff_lt.1 hlt⟩, hrank⟩

/-- A quotient that is a magnitude is not rounded. -/
theorem Magnitude.nearest?_of_units_eq {num den : Nat} (pos : 0 < den) {m : Magnitude}
    (h : m.units * den = unitsPerOne * num) : nearest? num den = some m := by
  have hdist := dist_nearestRank_le pos num m.rank
  rw [← units_eq, h, Nat.dist_self, Nat.le_zero] at hdist
  have hunits := Nat.eq_of_mul_eq_mul_right pos (h.trans (Nat.eq_of_dist_eq_zero hdist))
  rw [nearest?_eq_some_iff]
  exact unitsOfRank_strictMono.injective hunits

/-- A natural number that is a magnitude is not rounded. -/
theorem Magnitude.nearest?_one_of_units_eq {k : Nat} {m : Magnitude}
    (h : m.units = unitsPerOne * k) : nearest? k 1 = some m :=
  nearest?_of_units_eq Nat.one_pos ((Nat.mul_one _).trans h)

/-! ## Integers of 64 bits -/

variable {n : Int64} {x : Binary64}

/-- The magnitude of an integer of 64 bits is far below the bound. -/
theorem natAbs_toInt_le (n : Int64) : n.toInt.natAbs ≤ 2 ^ 63 := by
  have hmin := n.le_toInt
  have hmax := n.toInt_lt
  omega

/-- An integer of 64 bits is far below the bound. -/
theorem natAbs_toInt_lt (n : Int64) : n.toInt.natAbs < overflowBound :=
  Nat.lt_of_le_of_lt (natAbs_toInt_le n) (by decide +kernel)

/-- The magnitude of a number that is an integer. -/
theorem units_eq_of_value_eq {negative : Bool} {m : Magnitude} {k : Int}
    (h : (Binary64.finite negative m).value = k) : m.units = unitsPerOne * k.natAbs := by
  have hvalue : m.value = k.natAbs := by
    rw [← abs_signed m.value_nonneg negative, Nat.cast_natAbs, Int.cast_abs]
    exact congrArg abs h
  rw [Magnitude.value, div_eq_iff unitsPerOne_cast_pos.ne', mul_comm] at hvalue
  exact_mod_cast hvalue

/-- A magnitude with the sign of an integer is the integer. -/
theorem value_eq_of_units_eq {m : Magnitude} {k : Int} (h : m.units = unitsPerOne * k.natAbs) :
    (Binary64.finite (k < 0) m).value = k := by
  have hvalue : m.value = k.natAbs := by
    rw [Magnitude.value, h, Nat.cast_mul, mul_div_cancel_left₀ _ unitsPerOne_cast_pos.ne']
  rw [value, hvalue, Nat.cast_natAbs, Int.cast_abs]
  by_cases hneg : k < 0
  · rw [decide_eq_true hneg, signed, if_pos rfl, abs_of_neg (Int.cast_lt_zero.2 hneg), neg_neg]
  · rw [decide_eq_false hneg, signed, if_neg Bool.false_ne_true,
      abs_of_nonneg (Int.cast_nonneg (Int.not_lt.1 hneg))]

/-- **The integers of 64 bits that are numbers in double precision** are those whose magnitude fits
into a significand. -/
theorem exists_value_eq_iff :
    (∃ x : Binary64, x.isFinite = true ∧ x.value = n.toInt) ↔
      FitsSignificand n.toInt.natAbs := by
  rw [← exists_units_eq_iff (natAbs_toInt_lt n)]
  constructor
  · rintro ⟨x, hfinite, hvalue⟩
    obtain ⟨negative, m, rfl⟩ := exists_of_isFinite hfinite
    exact ⟨m, units_eq_of_value_eq hvalue⟩
  · rintro ⟨m, hm⟩
    exact ⟨_, rfl, value_eq_of_units_eq hm⟩

/-- An integer equals the number with its sign and its magnitude. -/
theorem ofInt64?_eq_some_iff : ofInt64? n = some x ↔
    ∃ m : Magnitude, m.units = unitsPerOne * n.toInt.natAbs ∧
      x = .finite (n.toInt < 0) m := by
  unfold ofInt64?
  constructor
  · intro h
    split at h
    · next m hm =>
      split at h
      · next hunits => exact ⟨m, hunits, (Option.some.inj h).symm⟩
      · simp at h
    · simp at h
  · rintro ⟨m, hunits, rfl⟩
    rw [Magnitude.nearest?_one_of_units_eq hunits]
    exact if_pos hunits

/-- **The integers that no number equals** are those whose magnitude does not fit into a
significand. -/
theorem ofInt64?_eq_none_iff : ofInt64? n = none ↔ ¬ FitsSignificand n.toInt.natAbs := by
  rw [← exists_units_eq_iff (natAbs_toInt_lt n), Option.eq_none_iff_forall_ne_some]
  constructor
  · rintro h ⟨m, hm⟩
    exact h _ (ofInt64?_eq_some_iff.2 ⟨m, hm, rfl⟩)
  · intro h x hx
    obtain ⟨m, hm, -⟩ := ofInt64?_eq_some_iff.1 hx
    exact h ⟨m, hm⟩

/-! ## There and back -/

/-- The number nearest to an integer of 64 bits. -/
def widen (n : Int64) : Binary64 :=
  ofQuotient (n.toInt < 0) n.toInt.natAbs 1

/-- A number without its fraction, as an integer of 128 bits. What is too large becomes the last
integer on its side, and what is no number becomes zero. -/
def truncate : Binary64 → Int
  | .nan => 0
  | .infinite negative => if negative then -2 ^ 127 else 2 ^ 127 - 1
  | .finite negative m =>
    if negative then max (-2 ^ 127) (-(m.units / unitsPerOne : Nat))
    else min (2 ^ 127 - 1) (m.units / unitsPerOne : Nat)

/-- The nearest number to an integer is finite. -/
theorem exists_widen_eq (n : Int64) :
    ∃ m, Magnitude.nearest? n.toInt.natAbs 1 = some m ∧ widen n = .finite (n.toInt < 0) m := by
  have hsome : (Magnitude.nearest? n.toInt.natAbs 1).isSome = true :=
    (Magnitude.isSome_nearest?_iff Nat.one_pos).2 (by simpa using natAbs_toInt_lt n)
  obtain ⟨m, hm⟩ := Option.isSome_iff_exists.1 hsome
  exact ⟨m, hm, by rw [widen, ofQuotient_eq, hm]; rfl⟩

/-- **The nearest number to a natural number is a natural number.**

**Proof sketch.** A number below `2⁵³` is not rounded. From there on the nearest number is not less
than `2⁵³`, so its significand of 53 binary digits is followed by all digits in front of the
point. -/
theorem dvd_units_of_nearest? {k : Nat} {m : Magnitude} (h : Magnitude.nearest? k 1 = some m)
    (lt : k < overflowBound) : unitsPerOne ∣ m.units := by
  obtain ⟨p, hp⟩ : ∃ p, p = 1074 := ⟨_, rfl⟩
  rcases Nat.lt_or_ge k (2 ^ 53) with hsmall | hlarge
  · obtain ⟨m', hm'⟩ := (exists_units_eq_iff lt).2 (fitsSignificand_of_lt hsmall)
    have hexact := Magnitude.nearest?_one_of_units_eq hm'
    obtain rfl := Option.some.inj (h.symm.trans hexact)
    exact ⟨k, hm'⟩
  · obtain ⟨b, hb⟩ :=
      (exists_units_eq_iff (Nat.lt_of_le_of_lt hlarge lt)).2 (fitsSignificand_two_pow 53)
    have hexact := Magnitude.nearest?_one_of_units_eq hb
    have hle : unitsPerOne * 2 ^ 53 ≤ m.units := by
      rw [← hb]
      exact Magnitude.units_le_of_nearest? Nat.one_pos Nat.one_pos (by omega) hexact h
    obtain ⟨s, e, hunits, hs⟩ := fitsSignificand_unitsOfRank m.rank
    rw [← Magnitude.units_eq] at hunits
    rw [hunits, unitsPerOne_eq hp] at hle ⊢
    have hlt : 2 ^ p < 2 ^ e := by
      apply Nat.lt_of_mul_lt_mul_left (a := 2 ^ 53)
      calc 2 ^ 53 * 2 ^ p = 2 ^ p * 2 ^ 53 := Nat.mul_comm _ _
        _ ≤ s * 2 ^ e := hle
        _ < 2 ^ 53 * 2 ^ e := Nat.mul_lt_mul_of_pos_right hs (Nat.two_pow_pos e)
    have hexponent : p ≤ e := Nat.le_of_lt ((Nat.pow_lt_pow_iff_right (by decide)).1 hlt)
    exact Dvd.dvd.mul_left (Nat.pow_dvd_pow 2 hexponent) s

/-- **An integer equals a number exactly if it comes back from the nearest one.** -/
theorem ofInt64?_eq_widen (n : Int64) :
    ofInt64? n = if truncate (widen n) = n.toInt then some (widen n) else none := by
  obtain ⟨m, hm, hwiden⟩ := exists_widen_eq n
  have hwhole : m.units = unitsPerOne * n.toInt.natAbs ↔
      m.units / unitsPerOne = n.toInt.natAbs := by
    obtain ⟨k, hk⟩ := dvd_units_of_nearest? hm (natAbs_toInt_lt n)
    rw [hk, Nat.mul_div_cancel_left _ unitsPerOne_pos, Nat.mul_right_inj unitsPerOne_pos.ne']
  have hback : truncate (widen n) = n.toInt ↔ m.units / unitsPerOne = n.toInt.natAbs := by
    have hle := natAbs_toInt_le n
    rw [hwiden]
    by_cases hneg : n.toInt < 0
    · simp only [truncate, hneg, decide_true, if_true]
      omega
    · simp only [truncate, hneg, decide_false, Bool.false_eq_true, if_false]
      omega
  by_cases h : m.units / unitsPerOne = n.toInt.natAbs
  · rw [if_pos (hback.2 h), hwiden]
    exact ofInt64?_eq_some_iff.2 ⟨m, hwhole.2 h, rfl⟩
  · rw [if_neg (mt hback.1 h), Option.eq_none_iff_forall_ne_some]
    intro x hx
    obtain ⟨m', hunits, -⟩ := ofInt64?_eq_some_iff.1 hx
    have hexact := Magnitude.nearest?_one_of_units_eq hunits
    obtain rfl := Option.some.inj (hm.symm.trans hexact)
    exact h (hwhole.1 hunits)

/-- An integer fits into a significand exactly if it comes back from the nearest number. -/
theorem fitsSignificand_iff_truncate :
    FitsSignificand n.toInt.natAbs ↔ truncate (widen n) = n.toInt := by
  have hnone := ofInt64?_eq_none_iff (n := n)
  rw [ofInt64?_eq_widen, ite_eq_right_iff] at hnone
  simpa using hnone.not.symm

/-! ## The end of the range -/

/-- **The integers that are rounded to `2⁶³`** are those from `2⁶³ - 512` on. -/
theorem value_widen_eq_iff : (widen n).value = 2 ^ 63 ↔ 2 ^ 63 - 512 ≤ n.toInt := by
  obtain ⟨m, hm, hwiden⟩ := exists_widen_eq n
  rw [Magnitude.nearest?_eq_some_iff] at hm
  have hends : nearestRank (2 ^ 63 - 513) 1 < nearestRank (2 ^ 63) 1 ∧
      nearestRank (2 ^ 63 - 512) 1 = nearestRank (2 ^ 63) 1 := by decide +kernel
  have hunits : unitsOfRank (nearestRank (2 ^ 63) 1) = unitsPerOne * 2 ^ 63 := by decide +kernel
  have hmono {a b : Nat} (h : a ≤ b) : nearestRank a 1 ≤ nearestRank b 1 :=
    nearestRank_mono Nat.one_pos Nat.one_pos (Nat.mul_le_mul_right 1 h)
  rw [hwiden]
  constructor
  · intro h
    have hpositive : ¬ n.toInt < 0 := by
      intro hneg
      have hle : (Binary64.finite (n.toInt < 0) m).value ≤ 0 := by
        rw [decide_eq_true hneg, value, signed, if_pos rfl, neg_nonpos]
        exact m.value_nonneg
      rw [h] at hle
      norm_num at hle
    have hvalue : (Binary64.finite (n.toInt < 0) m).value = ((2 ^ 63 : Int) : ℚ) := by
      rw [h]
      norm_num
    have hrank : m.rank = nearestRank (2 ^ 63) 1 := by
      apply unitsOfRank_strictMono.injective
      rw [← Magnitude.units_eq, units_eq_of_value_eq hvalue, hunits]
      rfl
    by_contra hlt
    have hle : nearestRank n.toInt.natAbs 1 ≤ nearestRank (2 ^ 63 - 513) 1 := hmono (by omega)
    omega
  · intro hle
    have hlow : nearestRank (2 ^ 63 - 512) 1 ≤ nearestRank n.toInt.natAbs 1 := hmono (by omega)
    have hhigh := hmono (natAbs_toInt_le n)
    have hrank : m.rank = nearestRank (2 ^ 63) 1 := by omega
    rw [decide_eq_false (by omega), value, signed, if_neg Bool.false_ne_true, Magnitude.value,
      Magnitude.units_eq, hrank, hunits, Nat.cast_mul,
      mul_div_cancel_left₀ _ unitsPerOne_cast_pos.ne']
    norm_num

/-- **An integer that is rounded to `2⁶³` is no number**, since it is less. -/
theorem not_fitsSignificand_of_le (le : 2 ^ 63 - 512 ≤ n.toInt) :
    ¬ FitsSignificand n.toInt.natAbs := by
  rw [← exists_units_eq_iff (natAbs_toInt_lt n)]
  rintro ⟨m, hm⟩
  have hwiden : widen n = .finite (n.toInt < 0) m := by
    rw [widen, ofQuotient_eq, Magnitude.nearest?_one_of_units_eq hm]
    rfl
  have hvalue := value_widen_eq_iff.2 le
  rw [hwiden, value_eq_of_units_eq hm] at hvalue
  have hlt := n.toInt_lt
  have heq : n.toInt = 2 ^ 63 := by exact_mod_cast hvalue
  omega

end TypedNames.Binary64
