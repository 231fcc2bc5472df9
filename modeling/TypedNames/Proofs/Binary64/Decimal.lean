import Mathlib.Algebra.Group.Nat.Defs
import Mathlib.Data.List.TakeWhile
import TypedNames.Proofs.Integer.Digits

/-!
# Decimals with a point, as numbers

A numeral with a sign, digits and a point denotes the number nearest to the quotient of all its
digits by a power of ten. The shortcut that reading takes for very long numerals makes no
difference: where it answers an infinity or a zero without computing the power of ten, the nearest
number is that infinity or zero.

## Main results

* `Binary64.ofDecimal_eq_ofQuotient` — digits with places behind the point are the nearest number
  to a quotient.
* `Binary64.parse_eq_ofQuotient` — the number that a numeral with a point denotes.
-/

set_option autoImplicit false

namespace TypedNames

namespace Binary64

/-- The number of units in one is a power of two. The exponent is a variable, so that the power is
not computed. -/
theorem unitsPerOne_eq {n : Nat} (h : n = 1074) : unitsPerOne = 2 ^ n := by
  unfold unitsPerOne
  exact congrArg (Nat.pow 2) h.symm

/-- The nearest number is an infinity where no magnitude is near enough. -/
theorem ofQuotient_eq (negative : Bool) (num den : Nat) :
    ofQuotient negative num den =
      (Magnitude.nearest? num den).elim (.infinite negative) (.finite negative) := by
  unfold ofQuotient
  cases Magnitude.nearest? num den with
  | none => rfl
  | some m => rfl

/-- The nearest magnitude to zero is zero. -/
theorem Magnitude.nearest?_zero (den : Nat) : nearest? 0 den = some .zero := by
  have hround (n : Nat) : roundQuotient 0 n = 0 := by simp [roundQuotient]
  have hrank : nearestRank 0 den = 0 := by
    rw [nearestRank, Nat.mul_zero, Nat.zero_div, Nat.log2_zero, Nat.zero_sub, Nat.mul_zero, hround]
  unfold nearest?
  split
  · simp only [hrank]
    rfl
  · next h =>
    rw [hrank] at h
    exact absurd (by decide) h

/-- The nearest number to zero is zero. -/
theorem ofQuotient_zero (negative : Bool) (den : Nat) :
    ofQuotient negative 0 den = .finite negative .zero := by
  rw [ofQuotient_eq, Magnitude.nearest?_zero]
  rfl

/-- A quotient of `2 ^ k` or more, counted in units of which `2 ^ n` make one, has at least
`k + n` binary digits after the first. -/
theorem add_le_log2 {num den k n : Nat} (pos : 0 < den) (h : 2 ^ k * den ≤ num) :
    k + n ≤ (2 ^ n * num / den).log2 := by
  have hscaled : 2 ^ (k + n) ≤ 2 ^ n * num / den := by
    rw [Nat.le_div_iff_mul_le pos, Nat.add_comm, Nat.pow_add, Nat.mul_assoc]
    exact Nat.mul_le_mul_left _ h
  have hne : 2 ^ n * num / den ≠ 0 := by
    have hpos : 0 < 2 ^ (k + n) := Nat.two_pow_pos _
    omega
  exact (Nat.le_log2 hne).2 hscaled

/-- A quotient of at least `2¹²⁰⁰` is beyond all finite numbers. -/
theorem ofQuotient_of_le {negative : Bool} {num den k : Nat} (pos : 0 < den) (hk : 1200 ≤ k)
    (h : 2 ^ k * den ≤ num) : ofQuotient negative num den = .infinite negative := by
  obtain ⟨n, hn⟩ : ∃ n, n = 1074 := ⟨_, rfl⟩
  have hlog : k + n ≤ (unitsPerOne * num / den).log2 := by
    rw [unitsPerOne_eq hn]
    exact add_le_log2 pos h
  have hrank : ¬ nearestRank num den < rankLimit := by
    have hdropped : fractionSize * 2047 ≤
        fractionSize * ((unitsPerOne * num / den).log2 - 52) :=
      Nat.mul_le_mul_left _ (by omega)
    rw [nearestRank, Nat.not_lt]
    exact Nat.le_trans hdropped (Nat.le_add_right _ _)
  have hnearest : Magnitude.nearest? num den = none := by
    unfold Magnitude.nearest?
    exact dif_neg hrank
  rw [ofQuotient_eq, hnearest]
  rfl

/-- **Digits with places behind the point are the number nearest to a quotient.**

**Proof sketch.** Only the two shortcuts need an argument. Without a digit other than zero both
sides are zero. If the first such digit stands more than `placeLimit` places in front of the
point, the quotient is at least `10 ^ placeLimit`, and that is beyond all finite numbers. -/
theorem ofDecimal_eq_ofQuotient (negative : Bool) {text : List Char} (digits : IsDigits text)
    {places : Nat} (le : places ≤ 400) :
    ofDecimal negative text (-(places : Int)) =
      ofQuotient negative (Integer.ofDigits text) (Nat.pow 10 places) := by
  have hvalue := Integer.ofDigits_dropWhile_zero text
  have hsub : ∀ c ∈ text.dropWhile (· == '0'), c.isDigit = true :=
    fun c hc => digits c ((List.dropWhile_sublist _).subset hc)
  have hpow : (-(places : Int)).toNat = 0 := by omega
  have hneg : (-(-(places : Int))).toNat = places := by omega
  have hhead : ∀ c ∈ (text.dropWhile (· == '0')).head?, c ≠ '0' := by
    intro c hc e
    have := List.head?_dropWhile_not (· == '0') text
    rw [hc] at this
    simp [e] at this
  unfold ofDecimal
  rw [← hvalue]
  generalize text.dropWhile (· == '0') = significant at hsub hhead
  cases significant with
  | nil => simp [Integer.ofDigits, ofQuotient_zero]
  | cons c rest =>
    have hlow : ¬ (((c :: rest).length : Int) + -(places : Int) < -placeLimit) := by
      simp only [List.length_cons, placeLimit]
      omega
    simp only [List.isEmpty_cons, Bool.false_or, decide_eq_true_eq, if_neg hlow]
    split
    · next hhigh =>
      obtain ⟨n, hlen, hn⟩ : ∃ n, rest.length = n + places ∧ 400 ≤ n := by
        simp only [List.length_cons, placeLimit] at hhigh
        exact ⟨rest.length - places, by omega, by omega⟩
      have hge : 2 ^ (3 * n) * Nat.pow 10 places ≤ Integer.ofDigits (c :: rest) := by
        calc 2 ^ (3 * n) * 10 ^ places = (2 ^ 3) ^ n * 10 ^ places := by rw [Nat.pow_mul]
          _ ≤ 10 ^ n * 10 ^ places :=
            Nat.mul_le_mul_right _ (Nat.pow_le_pow_left (by decide) _)
          _ = 10 ^ rest.length := by rw [hlen, Nat.pow_add]
          _ ≤ Integer.ofDigits (c :: rest) :=
            Integer.le_ofDigits_of_ne_zero (hsub c List.mem_cons_self) (hhead c rfl)
      exact (ofQuotient_of_le (Nat.pow_pos (by decide)) (by omega) hge).symm
    · rw [hpow, hneg]
      simp

/-! ## Numerals with a point -/

/-- Digits, a point and digits are read as a decimal. -/
theorem readDecimal?_eq {negative : Bool} {whole fraction : List Char} (ne : whole ≠ [])
    (hwhole : IsDigits whole) (hfraction : IsDigits fraction) :
    readDecimal? negative (whole ++ '.' :: fraction) =
      some (ofDecimal negative (whole ++ fraction) (-(fraction.length : Int))) := by
  have htake : (whole ++ '.' :: fraction).takeWhile Char.isDigit = whole := by
    rw [List.takeWhile_append_of_pos hwhole, List.takeWhile_cons_of_neg (by decide),
      List.append_nil]
  have hdrop : (whole ++ '.' :: fraction).dropWhile Char.isDigit = '.' :: fraction := by
    rw [List.dropWhile_append_of_pos hwhole, List.dropWhile_cons_of_neg (by decide)]
  have htake' : fraction.takeWhile Char.isDigit = fraction :=
    List.takeWhile_eq_self_iff.2 hfraction
  have hdrop' : fraction.dropWhile Char.isDigit = [] :=
    List.dropWhile_eq_nil_iff.2 hfraction
  have hempty : whole.isEmpty = false := by simpa using ne
  simp only [readDecimal?, htake, hdrop, htake', hdrop', hempty, Bool.false_and,
    Bool.false_eq_true, if_false, readExponent?, Option.map_some, Int.zero_sub]

/-- A text that starts with a digit is not one of the words for special numbers. -/
theorem readUnsigned?_eq {negative : Bool} {c : Char} {rest : List Char}
    (digit : c.isDigit = true) :
    readUnsigned? negative (c :: rest) = readDecimal? negative (c :: rest) := by
  have hlower : c.toLower = c := by
    simp only [Char.isDigit, Bool.and_eq_true, decide_eq_true_eq, ge_iff_le,
      UInt32.le_iff_toNat_le] at digit
    apply dif_neg
    rintro ⟨h, -⟩
    have h₁ : c.val.toNat ≤ 57 := digit.2
    have h₂ : 65 ≤ c.val.toNat := h
    omega
  have hword (d : Char) (more : List Char) (hd : d.isDigit = false) :
      String.ofList ((c :: rest).map Char.toLower) ≠ String.ofList (d :: more) := by
    intro e
    have e' := String.ofList_injective e
    rw [List.map_cons, hlower] at e'
    exact ne_of_isDigit digit hd (List.cons.inj e').1
  unfold readUnsigned?
  dsimp only
  rw [if_neg, if_neg]
  · exact hword 'n' ['a', 'n'] (by decide)
  · rintro (h | h)
    · exact hword 'i' ['n', 'f'] (by decide) h
    · exact hword 'i' ['n', 'f', 'i', 'n', 'i', 't', 'y'] (by decide) h

/-- **A numeral with a point denotes the number nearest to the quotient of its digits.** -/
theorem parse_eq_ofQuotient {sign whole fraction : List Char} (hsign : IsSign sign)
    (ne : whole ≠ []) (hwhole : IsDigits whole) (hfraction : IsDigits fraction)
    (le : fraction.length ≤ 400) :
    parse (sign ++ (whole ++ '.' :: fraction)) =
      .ok (ofQuotient (decide (sign = ['-'])) (Integer.ofDigits (whole ++ fraction))
        (Nat.pow 10 fraction.length)) := by
  have hall : IsDigits (whole ++ fraction) := by
    intro c hc
    rcases List.mem_append.1 hc with hc | hc
    · exact hwhole c hc
    · exact hfraction c hc
  have hread (negative : Bool) : readUnsigned? negative (whole ++ '.' :: fraction) =
      some (ofQuotient negative (Integer.ofDigits (whole ++ fraction))
        (Nat.pow 10 fraction.length)) := by
    rw [← ofDecimal_eq_ofQuotient negative hall le, ← readDecimal?_eq ne hwhole hfraction]
    cases whole with
    | nil => exact absurd rfl ne
    | cons c rest => exact readUnsigned?_eq (hwhole c List.mem_cons_self)
  rcases hsign with rfl | rfl
  · rw [List.nil_append]
    have hparse : parse (whole ++ '.' :: fraction) =
        (readUnsigned? false (whole ++ '.' :: fraction)).elim (.error .invalid) .ok := by
      cases whole with
      | nil => exact absurd rfl ne
      | cons c rest =>
        have hc := hwhole c List.mem_cons_self
        rw [List.cons_append]
        unfold parse
        split
        · simp_all
        · next e => exact absurd (List.cons.inj e).1 (ne_of_isDigit hc (by decide))
        · next e => exact absurd (List.cons.inj e).1 (ne_of_isDigit hc (by decide))
        · rfl
    rw [hparse, hread]
    rfl
  · rw [List.singleton_append]
    show (readUnsigned? true (whole ++ '.' :: fraction)).elim
      (.error .invalid : Except ParseFault Binary64) .ok = _
    rw [hread]
    rfl

end Binary64

end TypedNames
