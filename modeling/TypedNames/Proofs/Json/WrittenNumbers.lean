import TypedNames.Json.FloatText
import TypedNames.Proofs.Json.NumberRange

/-!
# Written numbers

An integer is written with its sign and its digits and is read as itself. A double precision number
is written with a fraction or an exponent, so it is read as one. It is computed from a decimal that
rounds to the number that was written: the shortest digits, with zeros up to the point if they end
in front of it and with the zero behind it.

## Main definitions

* `Json.SpellsDecimal` — a text behind a sign is a number that is computed from a decimal.
* `Json.spelled` — the decimal that is read where a magnitude is written.

## Main results

* `Json.spellsDecimal_magnitudeText` — the text of a magnitude spells the decimal that is read.
* `Json.rankOf_spelled` — this decimal rounds to the magnitude.
* `Json.isSome_scaleInteger?_spelled`, `Json.spellsFloat_magnitudeText` — it is in range.
* `Json.exists_number_of_int` — a written integer is spelled and read as itself.
-/

set_option autoImplicit false

namespace TypedNames

namespace Json

open Binary64 (Magnitude rankOf)

/-! ## Spelled decimals -/

/-- The text behind a sign spells a number that is read as one of double precision with that
sign. -/
def SpellsFloat (negative : Bool) (text : List Char) : Prop :=
  ∃ n : NumberText, n.IsSpelled ∧ n.spelling = Integer.sign negative ++ text ∧
    ∃ m, n.value? = some (.float negative m)

/-- **The text behind a sign spells a decimal**: it is a number with a fraction or an exponent, and
its value is computed from the decimal. -/
def SpellsDecimal (negative : Bool) (text : List Char) (d : Decimal) : Prop :=
  ∃ n : NumberText, n.IsSpelled ∧ n.spelling = Integer.sign negative ++ text ∧
    n.value? = (scaleInteger? d.significand d.exponent).map (.float negative)

variable (negative : Bool)

/-- Digits with a point among them spell a decimal if they fit into 64 bits. -/
theorem spellsDecimal_point {whole fraction : List Char} (hwhole : IsDigits whole) (ne : whole ≠ [])
    (zero : whole.head? = some '0' → whole = ['0']) (hfraction : IsDigits fraction)
    (ne' : fraction ≠ []) (lt : Integer.ofDigits (whole ++ fraction) < Integer.wordRange) :
    SpellsDecimal negative (whole ++ '.' :: fraction)
      ⟨Integer.ofDigits (whole ++ fraction), -(fraction.length : Int)⟩ := by
  obtain ⟨c, digits, rfl⟩ := List.exists_cons_of_ne_nil ne'
  have hmagnitude := NumberText.magnitude?_eq (n := ⟨negative, whole, c :: digits, none⟩) lt
    (Nat.zero_lt_succ _)
  refine ⟨⟨negative, whole, c :: digits, none⟩, ⟨hwhole, ne, zero, hfraction, by simp, by simp⟩,
    ?_, ?_⟩
  · simp [NumberText.spelling, fractionText, powerText]
  · rw [NumberText.value?_eq (.inl (List.cons_ne_nil c digits)), hmagnitude, NumberText.power,
      Int.zero_sub]

/-- A written exponent is the power of ten. -/
theorem power_eq {n : NumberText} {x : Int}
    (h : n.exponent = some (decide (x < 0), Integer.digits x.natAbs)) : n.power = x := by
  rw [NumberText.power, h]
  simp only [Integer.ofDigits_digits, decide_eq_true_eq]
  split <;> omega

/-- The exponent and the first digit of a decimal. -/
theorem exponent_eq (d : Decimal) : d.exponent = d.decade + 1 - d.digits.length := by
  have hdecade : d.decade = d.exponent + d.digits.length - 1 := rfl
  omega

/-- Digits with an exponent spell their decimal if they fit into 64 bits. -/
theorem spellsDecimal_exponentText {d : Decimal} (lt : d.significand < Integer.wordRange)
    (small : d.decade.natAbs < exponentLimit) :
    SpellsDecimal negative (exponentText d.digits d.decade) d := by
  have hdigits : IsDigits d.digits := Integer.isDigits_digits d.significand
  have hvalue : Integer.ofDigits d.digits = d.significand := Integer.ofDigits_digits d.significand
  have hexponent := exponent_eq d
  obtain ⟨c, fraction, htext⟩ :=
    List.exists_cons_of_ne_nil (Integer.digits_ne_nil d.significand)
  change d.digits = c :: fraction at htext
  rw [htext] at hdigits hvalue hexponent ⊢
  let n : NumberText :=
    ⟨negative, [c], fraction, some (decide (d.decade < 0), Integer.digits d.decade.natAbs)⟩
  have hpower : n.power = d.decade := power_eq rfl
  have hmagnitude : n.magnitude? = scaleInteger? d.significand d.exponent := by
    have hshift : d.decade - fraction.length = d.exponent := by
      rw [hexponent, List.length_cons]
      omega
    rw [NumberText.magnitude?_eq (by exact hvalue ▸ lt) (hpower.symm ▸ small), hpower]
    exact congrArg₂ scaleInteger? hvalue hshift
  refine ⟨n, ⟨?_, List.cons_ne_nil c [], ?_, ?_, ?_, ?_⟩, ?_, ?_⟩
  · exact fun x hx => hdigits x (List.mem_cons.2 (.inl (List.mem_singleton.1 hx)))
  · exact fun h => congrArg (fun x => [x]) (Option.some.inj h)
  · exact fun x hx => hdigits x (List.mem_cons_of_mem c hx)
  · rintro p ⟨⟩
    exact Integer.isDigits_digits _
  · rintro p ⟨⟩
    exact Integer.digits_ne_nil _
  · cases fraction <;> simp [n, NumberText.spelling, exponentText, fractionText, powerText]
  · rw [NumberText.value?_eq (.inr (Option.some_ne_none _)), hmagnitude]

/-- Digits behind the point with zeros between them and the point. -/
theorem spellsDecimal_zerosBefore {s : Nat} (lt : s < Integer.wordRange) (zeros : Nat) :
    SpellsDecimal negative (['0', '.'] ++ List.replicate zeros '0' ++ Integer.digits s)
      ⟨s, -((zeros + (Integer.digits s).length : Nat) : Int)⟩ := by
  have hpad : ['0'] ++ (List.replicate zeros '0' ++ Integer.digits s) =
      (Integer.digits s).leftpad ((Integer.digits s).length + (zeros + 1)) '0' := by
    rw [List.leftpad, Nat.add_sub_cancel_left, List.replicate_succ]
    rfl
  have hall : IsDigits (['0'] ++ (List.replicate zeros '0' ++ Integer.digits s)) :=
    hpad ▸ Integer.isDigits_leftpad_digits _ _
  have hvalue : Integer.ofDigits (['0'] ++ (List.replicate zeros '0' ++ Integer.digits s)) = s := by
    rw [hpad, Integer.ofDigits_leftpad_digits]
  have hspells := spellsDecimal_point negative (Integer.isDigits_digits 0)
    (by decide) (fun _ => rfl) (fun c hc => hall c (List.mem_append_right _ hc))
    (fun h => Integer.digits_ne_nil s (List.append_eq_nil_iff.1 h).2) (hvalue.symm ▸ lt)
  have hlen : (List.replicate zeros '0' ++ Integer.digits s).length =
      zeros + (Integer.digits s).length := by
    rw [List.length_append, List.length_replicate]
  change SpellsDecimal negative _ ⟨Integer.ofDigits (['0'] ++ _), _⟩ at hspells
  rw [hvalue, hlen] at hspells
  have hpoint : ['0', '.'] ++ List.replicate zeros '0' ++ Integer.digits s =
      Integer.digits 0 ++ '.' :: (List.replicate zeros '0' ++ Integer.digits s) := by
    simp [Integer.digits]
  rwa [hpoint]

/-- Digits in front of the point with zeros between them and the point. -/
theorem spellsDecimal_zerosBehind {s : Nat} (pos : 0 < s) (zeros : Nat)
    (le : (Integer.digits s).length + zeros ≤ 16) :
    SpellsDecimal negative (Integer.digits s ++ List.replicate zeros '0' ++ ['.', '0'])
      ⟨s * 10 ^ (zeros + 1), -1⟩ := by
  have hzeros (count : Nat) : IsDigits (List.replicate count '0') := by
    intro c hc
    rw [List.eq_of_mem_replicate hc]
    rfl
  have hwhole : IsDigits (Integer.digits s ++ List.replicate zeros '0') := by
    intro c hc
    exact (List.mem_append.1 hc).elim (Integer.isDigits_digits s c) (hzeros zeros c)
  have hall : Integer.digits s ++ List.replicate zeros '0' ++ ['0'] =
      Integer.digits s ++ List.replicate (zeros + 1) '0' := by
    rw [List.append_assoc, List.replicate_succ']
  have hvalue : Integer.ofDigits (Integer.digits s ++ List.replicate zeros '0' ++ ['0']) =
      s * 10 ^ (zeros + 1) := by
    have hnone : Integer.ofDigits (List.replicate (zeros + 1) '0') = 0 := by
      rw [Integer.ofDigits, Nat.ofDigitChars_replicate_zero, Nat.mul_zero]
    rw [hall, Integer.ofDigits_append, List.length_replicate, hnone, Integer.ofDigits_digits,
      Nat.add_zero, Nat.mul_comm]
  have hlt : s * 10 ^ (zeros + 1) < Integer.wordRange := by
    calc s * 10 ^ (zeros + 1) < 10 ^ (Integer.digits s).length * 10 ^ (zeros + 1) :=
          Nat.mul_lt_mul_of_pos_right (Integer.lt_ten_pow_length_digits s)
            (Nat.pow_pos (by decide))
      _ = 10 ^ ((Integer.digits s).length + (zeros + 1)) := (Nat.pow_add _ _ _).symm
      _ ≤ 10 ^ 17 := Nat.pow_le_pow_right (by decide) (by omega)
      _ ≤ Integer.wordRange := by decide
  obtain ⟨c, more, hcons⟩ := List.exists_cons_of_ne_nil (Integer.digits_ne_nil s)
  have hspells := spellsDecimal_point negative hwhole
    (fun h => Integer.digits_ne_nil s (List.append_eq_nil_iff.1 h).1) (fun h => ?_) (hzeros 1)
    (by decide) (hvalue.symm ▸ hlt)
  · change SpellsDecimal negative _ ⟨Integer.ofDigits (_ ++ ['0']), _⟩ at hspells
    rwa [hvalue] at hspells
  · refine absurd ?_ (Integer.head?_digits_ne_zero (Nat.ne_of_gt pos))
    rw [hcons] at h ⊢
    exact h

/-- Digits on both sides of the point. -/
theorem spellsDecimal_pointInside {s whole : Nat} (pos : 0 < s) (lt : s < Integer.wordRange)
    (ne : whole ≠ 0) (len : whole < (Integer.digits s).length) :
    SpellsDecimal negative
      ((Integer.digits s).take whole ++ '.' :: (Integer.digits s).drop whole)
      ⟨s, -(((Integer.digits s).length - whole : Nat) : Int)⟩ := by
  have hdigits : IsDigits (Integer.digits s) := Integer.isDigits_digits s
  have hvalue : Integer.ofDigits ((Integer.digits s).take whole ++ (Integer.digits s).drop whole) =
      s := by
    rw [List.take_append_drop, Integer.ofDigits_digits]
  have hfront : IsDigits ((Integer.digits s).take whole) :=
    fun c hc => hdigits c (List.mem_of_mem_take hc)
  have hbehind : IsDigits ((Integer.digits s).drop whole) :=
    fun c hc => hdigits c (List.mem_of_mem_drop hc)
  have hspells := spellsDecimal_point negative hfront ?_ (fun h => ?_) hbehind ?_
    (hvalue.symm ▸ lt)
  · rwa [hvalue, List.length_drop] at hspells
  · exact fun h => (List.take_eq_nil_iff.1 h).elim ne (Integer.digits_ne_nil s)
  · rw [List.head?_take, if_neg ne] at h
    exact absurd h (Integer.head?_digits_ne_zero (Nat.ne_of_gt pos))
  · exact fun h => Nat.not_le.2 len (List.drop_eq_nil_iff.1 h)

/-! ## Texts of decimals -/

/-- The decimal that is read where this one is written: at their places, zeros up to the point and
one behind it belong to the digits. -/
def asSpelled (d : Decimal) : Decimal :=
  if (leastPlainDecade ≤ d.decade ∧ d.decade ≤ mostPlainDecade) ∧ 0 ≤ d.exponent then
    ⟨d.significand * 10 ^ (d.exponent.toNat + 1), -1⟩
  else d

/-- A decimal is its digits and its exponent. -/
theorem SpellsDecimal.of_exponent {negative : Bool} {text : List Char} {d : Decimal} {e : Int}
    (h : SpellsDecimal negative text ⟨d.significand, e⟩) (eq : e = d.exponent) :
    SpellsDecimal negative text d := by
  subst eq
  exact h

/-- **The text of a decimal spells the decimal that is read.**

**Proof sketch.** At their places, the digits end in front of the point if the first of them is far
enough to the left of it, which is when the exponent is not negative. -/
theorem spellsDecimal_decimalText {d : Decimal} (pos : 0 < d.significand)
    (lt : d.significand < Integer.wordRange) (small : d.decade.natAbs < exponentLimit) :
    SpellsDecimal negative (decimalText d) (asSpelled d) := by
  have hexponent := exponent_eq d
  have hlen := Integer.one_le_length_digits d.significand
  change 1 ≤ d.digits.length at hlen
  unfold decimalText asSpelled
  by_cases hplain : leastPlainDecade ≤ d.decade ∧ d.decade ≤ mostPlainDecade
  · have hhigh := hplain.2
    rw [mostPlainDecade] at hhigh
    rw [if_pos hplain]
    unfold plainText
    by_cases hneg : d.decade < 0
    · rw [if_pos hneg, if_neg (by omega)]
      have hspells := spellsDecimal_zerosBefore negative lt (d.decade.natAbs - 1)
      change SpellsDecimal negative _ ⟨_, -((_ + d.digits.length : Nat) : Int)⟩ at hspells
      exact hspells.of_exponent (by omega)
    · dsimp only
      rw [if_neg hneg]
      by_cases hshort : d.digits.length ≤ d.decade.toNat + 1
      · have hzeros : d.decade.toNat + 1 - d.digits.length = d.exponent.toNat := by omega
        rw [if_pos hshort, if_pos ⟨hplain, by omega⟩, List.rightpad, hzeros]
        refine spellsDecimal_zerosBehind negative pos d.exponent.toNat ?_
        change d.digits.length + _ ≤ 16
        omega
      · rw [if_neg hshort, if_neg (by omega)]
        have hspells := spellsDecimal_pointInside negative pos lt
          (Nat.succ_ne_zero d.decade.toNat) (Nat.lt_of_not_le hshort)
        change SpellsDecimal negative _ ⟨_, -((d.digits.length - _ : Nat) : Int)⟩ at hspells
        exact hspells.of_exponent (by omega)
  · rw [if_neg hplain, if_neg fun h => hplain h.1]
    exact spellsDecimal_exponentText negative lt small

/-- The decimal that is read has the value of the one that is written. -/
theorem value_asSpelled (d : Decimal) : (asSpelled d).value = d.value := by
  unfold asSpelled
  split
  · next h =>
    obtain ⟨n, hn⟩ := Int.eq_ofNat_of_zero_le h.2
    have hten : (10 : ℚ) ≠ 0 := by norm_num
    have hexponent : ((n + 1 : Nat) : ℤ) + -1 = n := by omega
    rw [Decimal.value, Decimal.value, hn, Int.toNat_natCast, Nat.cast_mul, Nat.cast_pow, mul_assoc,
      Nat.cast_ofNat, ← zpow_natCast, ← zpow_add₀ hten, hexponent]
  · rfl

/-- Zeros up to the point and one behind it make no more than seventeen digits. -/
theorem significand_asSpelled_le {d : Decimal} (digits : d.significand ≤ 10 ^ 17) :
    (asSpelled d).significand ≤ 10 ^ 17 := by
  unfold asSpelled
  split
  · next h =>
    have hexponent := exponent_eq d
    have hhigh := h.1.2
    rw [mostPlainDecade] at hhigh
    calc d.significand * 10 ^ (d.exponent.toNat + 1)
        ≤ 10 ^ d.digits.length * 10 ^ (d.exponent.toNat + 1) :=
          Nat.mul_le_mul_right _ (Nat.le_of_lt (Integer.lt_ten_pow_length_digits d.significand))
      _ = 10 ^ (d.digits.length + (d.exponent.toNat + 1)) := (Nat.pow_add _ _ _).symm
      _ ≤ 10 ^ 17 := Nat.pow_le_pow_right (by decide) (by omega)
  · exact digits

/-- The exponent of shortest digits can be computed with. -/
theorem exponent_shortest_bounds {m : Magnitude} (ne : m ≠ .zero) :
    -340 ≤ m.shortest.exponent ∧ m.shortest.exponent ≤ maxPower := by
  obtain ⟨hdigits, hnear⟩ := m.isNearestTo_shortest
  refine ⟨Magnitude.le_exponent_of_isNearestTo ne hnear hdigits, ?_⟩
  have hle := m.num_shortest_le
  have hpos := Magnitude.significand_pos ne hnear
  generalize m.shortest = d at hle hpos
  obtain ⟨s, e⟩ := d
  rcases Int.lt_or_le e 0 with hneg | hnonneg
  · exact Int.le_of_lt (Int.lt_of_lt_of_le hneg (Int.natCast_nonneg maxPower))
  · obtain ⟨k, rfl⟩ := Int.eq_ofNat_of_zero_le hnonneg
    rw [Decimal.den_natCast, Nat.mul_one] at hle
    exact Int.ofNat_le.2 (le_maxPower_of_le hpos hle)

/-! ## Texts of magnitudes -/

/-- The decimal that is read where a magnitude is written. -/
def spelled (m : Magnitude) : Decimal :=
  asSpelled m.shortest

/-- Zero is read from one digit behind the point. -/
theorem spelled_zero : spelled .zero = ⟨0, -1⟩ := by
  rw [spelled, Magnitude.shortest_zero]
  decide

/-- The digits of a magnitude fit into 64 bits where they are read. -/
theorem significand_spelled_le (m : Magnitude) : (spelled m).significand ≤ 10 ^ 17 :=
  significand_asSpelled_le m.isNearestTo_shortest.1

/-- **The decimal that is read rounds to the magnitude that was written.** -/
theorem rankOf_spelled (m : Magnitude) : rankOf (spelled m).value = m.rank := by
  rw [spelled, value_asSpelled]
  exact Magnitude.isNearestTo_iff.1 m.isNearestTo_shortest.2

/-- The exponent that is read can be computed with. -/
theorem exponent_spelled_bounds (m : Magnitude) :
    -340 ≤ (spelled m).exponent ∧ (spelled m).exponent ≤ maxPower := by
  by_cases hzero : m = .zero
  · rw [hzero, spelled_zero]
    decide
  · unfold spelled asSpelled
    split
    · exact ⟨show (-340 : Int) ≤ -1 by decide, show (-1 : Int) ≤ maxPower by decide⟩
    · exact exponent_shortest_bounds hzero

/-- **The decimal that is read is in range.** -/
theorem isSome_scaleInteger?_spelled (m : Magnitude) :
    (scaleInteger? (spelled m).significand (spelled m).exponent).isSome = true := by
  have hrange : (spelled m).significand < Integer.wordRange :=
    Nat.lt_of_le_of_lt (significand_spelled_le m) (by decide)
  rcases Int.lt_or_le (spelled m).exponent 0 with hneg | hnonneg
  · exact isSome_scaleInteger?_of_neg hrange hneg
  · -- only a decimal that is read as it is written has no places behind the point
    have hne : m ≠ .zero := by
      rintro rfl
      rw [spelled_zero] at hnonneg
      exact absurd hnonneg (by decide)
    have hself : spelled m = m.shortest := by
      unfold spelled asSpelled at hnonneg ⊢
      split at hnonneg
      · exact absurd (show (0 : Int) ≤ -1 from hnonneg) (by decide)
      · next h => exact if_neg h
    rw [hself]
    exact isSome_scaleInteger? (Magnitude.significand_pos hne m.isNearestTo_shortest.2)
      m.isNearestTo_shortest.1 m.num_shortest_le

/-- **The text of a magnitude spells the decimal that is read.** -/
theorem spellsDecimal_magnitudeText (m : Magnitude) :
    SpellsDecimal negative (magnitudeText m) (spelled m) := by
  unfold magnitudeText
  split
  · next hzero =>
    have hdigit : IsDigits ['0'] := Integer.isDigits_digits 0
    rw [hzero, spelled_zero]
    exact spellsDecimal_point negative hdigit (by decide) (fun _ => rfl) hdigit
      (by decide) (by decide)
  · next hne =>
    obtain ⟨hdigits, hnear⟩ := m.isNearestTo_shortest
    have hlen : m.shortest.digits.length ≤ 18 := (Nat.length_toDigits_le_iff (by decide)
      (by decide)).2 (Nat.lt_of_le_of_lt hdigits (by decide))
    have hbounds := exponent_shortest_bounds hne
    have hexponent := exponent_eq m.shortest
    rw [maxPower] at hbounds
    exact spellsDecimal_decimalText negative (Magnitude.significand_pos hne hnear)
      (Nat.lt_of_le_of_lt hdigits (by decide)) (by unfold exponentLimit; omega)

/-- **A finite number is spelled as one, and its spelling is in range.** -/
theorem spellsFloat_magnitudeText {negative : Bool} (m : Magnitude) :
    SpellsFloat negative (magnitudeText m) := by
  obtain ⟨n, hspelled, hspelling, hvalue⟩ := spellsDecimal_magnitudeText negative m
  obtain ⟨found, hfound⟩ := Option.isSome_iff_exists.1 (isSome_scaleInteger?_spelled m)
  exact ⟨n, hspelled, hspelling, found, by rw [hvalue, hfound]; rfl⟩

/-! ## Texts of integers -/

/-- **An integer is spelled as itself.** -/
theorem exists_number_of_int (i : Int64) : ∃ n : NumberText, n.IsSpelled ∧
    n.spelling = Integer.text i ∧ n.value? = some (.integer i.toInt) := by
  have hmin := i.le_toInt
  have hmax := i.toInt_lt
  refine ⟨⟨decide (i.toInt < 0), Integer.digits i.toInt.natAbs, [], none⟩,
    ⟨Integer.isDigits_digits _, Integer.digits_ne_nil _, Integer.digits_eq_zero_of_head?,
      by simp [IsDigits], by simp, by simp⟩, ?_, ?_⟩
  · simp [NumberText.spelling, fractionText, powerText, Integer.text]
  · have hlt : i.toInt.natAbs < Integer.wordRange := by
      unfold Integer.wordRange
      omega
    rw [NumberText.value?_of_digits hlt]
    · congr 2
      simp only [decide_eq_true_eq]
      split <;> omega
    · intro hnegative
      have hneg : i.toInt < 0 := of_decide_eq_true hnegative
      unfold Integer.halfRange
      omega

end Json

end TypedNames
