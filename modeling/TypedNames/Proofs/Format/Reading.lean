import TypedNames.Proofs.Binary64.Nearest
import TypedNames.Proofs.Format.ReadBack

/-!
# What is read from tokens

What a token that the pattern of its format matches is read as. A number is read from the digits of
the token and its sign, whatever zeros stand in front. Patterns put no bound on the number of
digits, so a number can be too large for its kind: an integer that is too large is not read at all,
and a number in fixed-point that is too large is read as an infinity. Everything else that is read
is a value that fits and that can be written again.

## Main definitions

* `Format.number`, `Format.isNegative` — the digits of a token as a number, and its sign.
* `Format.outOfRange` — the number of a token is too large for the kind of the format.

## Main results

* `Format.read_int`, `Format.read_fixed` — numbers that are read.
* `Format.exists_read_of_kind_ne` — only integers can fail to be read.
* `Format.exists_writes_of_read` — a finite value that is read fits and can be written.
* `Format.writes_restored` — what is read from a written token is written as the same token.
-/

set_option autoImplicit false

namespace TypedNames

/-- The values of the kind of numbers are the numbers. -/
theorem Value.kind_eq_float_iff {v : Value} : v.kind = .float ↔ ∃ x, v = .float x := by
  cases v <;> simp [kind]

/-- The values of the kind of integers are the integers. -/
theorem Value.kind_eq_int_iff {v : Value} : v.kind = .int ↔ ∃ n, v = .int n := by
  cases v <;> simp [kind]

/-! ## Integers -/

namespace Integer

/-- The largest magnitude of an integer of 64 bits with the given sign. -/
def limit (negative : Bool) : Nat :=
  if negative then halfRange else halfRange - 1

/-- How a magnitude above the limit is told. -/
def excess (negative : Bool) : Fault :=
  if negative then .tooSmall else .tooLarge

/-- The integer with the given sign and magnitude. -/
def signed (negative : Bool) (n : Nat) : Int :=
  if negative then -n else n

/-- Digits that denote a number beyond the limit are read as the given fault.

**Proof sketch.** By induction on the digits. The limit is passed at the first digit with which the
number is beyond it, or at a later one. -/
theorem readUpTo_eq_error {limit : Nat} {excess : Fault} {text : List Char} {start : Nat}
    (digits : IsDigits text) (le : start ≤ limit) (lt : limit < Nat.ofDigitChars 10 text start) :
    readUpTo limit excess start text = .error excess := by
  induction text generalizing start with
  | nil =>
    rw [Nat.ofDigitChars_nil] at lt
    omega
  | cons c rest ih =>
    rw [Nat.ofDigitChars_cons] at lt
    rw [readUpTo, if_pos (digits c List.mem_cons_self)]
    split
    · next h => exact ih (fun d hd => digits d (List.mem_cons_of_mem c hd)) h lt
    · rfl

/-- **A numeral is read as the integer that it denotes**, or as the fault for its sign if that is
not an integer of 64 bits. -/
theorem parse_eq_ite {sign whole : List Char} (hsign : IsSign sign) (ne : whole ≠ [])
    (digits : IsDigits whole) :
    parse (sign ++ whole) =
      if ofDigits whole ≤ limit (sign.contains '-') then
        .ok (Int64.ofInt (signed (sign.contains '-') (ofDigits whole)))
      else .error (excess (sign.contains '-')) := by
  have hread (top : Nat) (fault : Fault) : readUpTo top fault 0 whole =
      if ofDigits whole ≤ top then .ok (ofDigits whole) else .error fault := by
    split
    · next h => exact readUpTo_eq_ok digits h
    · next h => exact readUpTo_eq_error digits (Nat.zero_le top) (Nat.not_le.1 h)
  obtain ⟨c, rest, rfl⟩ := List.exists_cons_of_ne_nil ne
  have hc : c.isDigit = true := digits c List.mem_cons_self
  rcases hsign with rfl | rfl
  · have hparse : parse (c :: rest) = (readUpTo (halfRange - 1) .tooLarge 0 (c :: rest)).map
        fun n => Int64.ofInt n := by
      have hminus : c ≠ '-' := ne_of_isDigit hc (by decide)
      have hplus : c ≠ '+' := ne_of_isDigit hc (by decide)
      unfold parse
      split
      · next e => exact absurd e (List.cons_ne_nil _ _)
      · next e => exact absurd (List.cons.inj e).1 hminus
      · next e => exact absurd (List.cons.inj e).1 hplus
      · next e => exact absurd (List.cons.inj e).1 hminus
      · next e => exact absurd (List.cons.inj e).1 hplus
      · rfl
    rw [List.nil_append, hparse, hread, List.contains_nil]
    simp only [limit, signed, excess, Bool.false_eq_true, if_false]
    split <;> rfl
  · have hparse : parse ('-' :: c :: rest) = (readUpTo halfRange .tooSmall 0 (c :: rest)).map
        fun n => Int64.ofInt (-n) := rfl
    have hcontains : List.contains ['-'] '-' = true := by decide
    rw [List.singleton_append, hparse, hread, hcontains]
    simp only [limit, signed, excess, if_true]
    split <;> rfl

end Integer

namespace Format

/-! ## Digits and signs -/

/-- The number that the digits of a token denote. In a fixed-point token they count units of the
last decimal place. -/
def number (token : List Char) : Nat :=
  Integer.ofDigits (token.filter Char.isDigit)

/-- Whether a token has a minus sign. -/
def isNegative (token : List Char) : Bool :=
  token.contains '-'

/-- A sign has no digits. -/
theorem filter_isDigit_sign {sign : List Char} (hsign : IsSign sign) :
    sign.filter Char.isDigit = [] := by
  rcases hsign with rfl | rfl <;> rfl

/-- Digits have no sign. -/
theorem isNegative_append {sign rest : List Char} (h : '-' ∉ rest) :
    isNegative (sign ++ rest) = sign.contains '-' := by
  have hrest : rest.contains '-' = false := by simpa using h
  rw [isNegative, List.contains_append, hrest, Bool.or_false]

/-- Whether the number of a token is too large for the kind of the format. -/
def outOfRange : Format → List Char → Bool
  | .fixed _ d, token => decide (Binary64.overflowBound * Nat.pow 10 d ≤ number token)
  | .int _, token => decide (Integer.limit (isNegative token) < number token)
  | _, _ => false

/-- **A token of an integer is read as the integer that it denotes**, or as a fault if that is out
of range. -/
theorem read_int {width : Option Nat} (range : (Format.int width).InRange) {token : List Char}
    (h : (Format.int width).pattern.Matches token) :
    (Format.int width).read token =
      if (Format.int width).outOfRange token = true then
        .error (.int (Integer.excess (isNegative token)))
      else .ok (.int (Int64.ofInt (Integer.signed (isNegative token) (number token)))) := by
  obtain ⟨sign, whole, rfl, hsign, hne, hwhole⟩ := exists_numeral_of_matches_int range h
  have hnumber : number (sign ++ whole) = Integer.ofDigits whole := by
    rw [number, List.filter_append, filter_isDigit_sign hsign, List.nil_append,
      List.filter_eq_self.2 hwhole]
  have hnegative : isNegative (sign ++ whole) = sign.contains '-' :=
    isNegative_append (hwhole.notMem (by decide))
  rw [read, Integer.parse_eq_ite hsign hne hwhole, outOfRange, hnumber, hnegative]
  by_cases hle : Integer.ofDigits whole ≤ Integer.limit (sign.contains '-')
  · rw [if_pos hle, if_neg (by simpa using hle)]
    rfl
  · rw [if_neg hle, if_pos (by simpa using hle)]
    rfl

/-! ## Numbers in fixed-point -/

/-- **A token in fixed-point is read as the nearest number**, or as an infinity if its number is out
of range. -/
theorem read_fixed {i d : Nat} (range : (Format.fixed i d).InRange) {token : List Char}
    (h : (Format.fixed i d).pattern.Matches token) :
    (Format.fixed i d).read token =
      .ok (.float (Binary64.ofQuotient (isNegative token) (number token) (Nat.pow 10 d))) := by
  obtain ⟨sign, whole, fraction, rfl, hsign, ⟨hlen, hwhole⟩, rfl, hfraction⟩ :=
    matches_fixed_iff.1 h
  obtain ⟨⟨hi, -⟩, -, hd⟩ := range
  have hne : whole ≠ [] := List.length_pos_iff.1 (Nat.lt_of_lt_of_le hi hlen)
  have hplaces : fraction.length ≤ 400 := Nat.le_trans hd (by decide)
  have hnumber : number (sign ++ (whole ++ '.' :: fraction)) =
      Integer.ofDigits (whole ++ fraction) := by
    rw [number, List.filter_append, filter_isDigit_sign hsign, List.nil_append,
      List.filter_append, List.filter_cons_of_neg (by decide), List.filter_eq_self.2 hwhole,
      List.filter_eq_self.2 hfraction]
  have hfree : '-' ∉ whole ++ '.' :: fraction := by
    have h₁ : '-' ∉ whole := hwhole.notMem (by decide)
    have h₂ : '-' ∉ fraction := hfraction.notMem (by decide)
    simp [h₁, h₂]
  have hnegative : isNegative (sign ++ (whole ++ '.' :: fraction)) = decide (sign = ['-']) := by
    rw [isNegative_append hfree]
    rcases hsign with rfl | rfl <;> decide
  rw [read, Binary64.parse_eq_ofQuotient hsign hne hwhole hfraction hplaces, hnumber, hnegative]
  rfl

/-- A number in fixed-point is an infinity exactly when it is out of range. -/
theorem ofQuotient_eq_infinite_iff_outOfRange {i d : Nat} {negative : Bool} {token : List Char} :
    Binary64.ofQuotient negative (number token) (Nat.pow 10 d) = .infinite negative ↔
      (Format.fixed i d).outOfRange token = true := by
  have hpos : 0 < Nat.pow 10 d := Nat.pow_pos (by decide)
  rw [Binary64.ofQuotient_eq_infinite_iff hpos, outOfRange, decide_eq_true_eq]

/-! ## All formats -/

/-- What is read from a token is of the kind of the format. -/
theorem kind_of_read {format : Format} {token : List Char} {v : Value}
    (h : format.read token = .ok v) : v.kind = format.kind := by
  cases format with
  | fixed i d =>
    cases hparse : Binary64.parse token with
    | error fault => simp [read, hparse, Except.mapError, Except.map] at h
    | ok x =>
      simp only [read, hparse, Except.mapError, Except.map, Except.ok.injEq] at h
      exact h ▸ rfl
  | bool => exact Except.ok.inj h ▸ rfl
  | int width =>
    cases hparse : Integer.parse token with
    | error fault => simp [read, hparse, Except.mapError, Except.map] at h
    | ok n =>
      simp only [read, hparse, Except.mapError, Except.map, Except.ok.injEq] at h
      exact h ▸ rfl
  | str padding =>
    cases padding with
    | none => exact Except.ok.inj h ▸ rfl
    | some _ => exact Except.ok.inj h ▸ rfl

/-- **Only integers can fail to be read**: a token that the pattern of another format matches is
read. -/
theorem exists_read_of_kind_ne {format : Format} (range : format.InRange) {token : List Char}
    (hmatches : format.pattern.Matches token) (other : format.kind ≠ .int) :
    ∃ v, format.read token = .ok v := by
  cases format with
  | fixed i d => exact ⟨_, read_fixed range hmatches⟩
  | bool => exact ⟨_, rfl⟩
  | int width => exact absurd rfl other
  | str padding => cases padding <;> exact ⟨_, rfl⟩

/-- What is read is a finite number, or no number at all, exactly when the token is in range. -/
theorem isFinite_iff_of_read {format : Format} (range : format.InRange) {token : List Char}
    (hmatches : format.pattern.Matches token) {v : Value} (h : format.read token = .ok v) :
    v.isFinite = true ↔ format.outOfRange token = false := by
  by_cases hkind : format.kind = .float
  · obtain ⟨i, d, rfl⟩ := kind_eq_float_iff.1 hkind
    rw [read_fixed range hmatches] at h
    rw [← Except.ok.inj h, Value.isFinite, Binary64.isFinite_ofQuotient_iff, ne_eq,
      ofQuotient_eq_infinite_iff_outOfRange, Bool.not_eq_true]
  · have hfinite : v.isFinite = true := by
      have hv : v.kind ≠ .float := by rwa [kind_of_read h]
      cases v with
      | float x => exact absurd rfl hv
      | bool b => rfl
      | int n => rfl
      | str s => rfl
    refine iff_of_true hfinite ?_
    cases format with
    | fixed i d => exact absurd rfl hkind
    | bool => rfl
    | int width =>
      rw [read_int range hmatches] at h
      by_contra hout
      rw [if_pos (by simpa using hout)] at h
      simp at h
    | str padding => rfl

/-- **A finite value that is read from a token fits and can be written.** A padded text has no zeros
of its own.

**Proof sketch.** By the format. Only numbers in fixed-point can fail to be finite. A text is made
of the word characters of its token, and it is not longer than the token. -/
theorem exists_writes_of_read {format : Format} {token : List Char}
    (hmatches : format.pattern.Matches token) {v : Value} (h : format.read token = .ok v)
    (finite : v.isFinite = true) :
    (∃ again, format.Writes v again) ∧ format.fits v = true ∧ format.zeroFree v = true := by
  have hkind := kind_of_read h
  cases format with
  | fixed i d =>
    obtain ⟨x, rfl⟩ := Value.kind_eq_float_iff.1 hkind
    cases x with
    | finite negative m => exact ⟨⟨_, .fixed rfl⟩, rfl, rfl⟩
    | infinite negative => exact Bool.noConfusion finite
    | nan => exact Bool.noConfusion finite
  | bool =>
    obtain rfl := Except.ok.inj h
    exact ⟨⟨_, .bool _⟩, rfl, rfl⟩
  | int width =>
    obtain ⟨n, rfl⟩ := Value.kind_eq_int_iff.1 hkind
    exact ⟨⟨_, .int width n⟩, by cases width <;> rfl, by cases width <;> rfl⟩
  | str padding =>
    rcases padding with _ | ⟨n, side⟩
    · obtain rfl := Except.ok.inj h
      obtain ⟨hne, hword⟩ := matches_str_iff.1 hmatches
      exact ⟨⟨_, .str none _⟩, by simpa [fits, hne] using hword, rfl⟩
    · obtain rfl := Except.ok.inj h
      obtain ⟨hlen, hword⟩ := matches_sizedStr_iff.1 hmatches
      have hle : (token.filter (· != '0')).length ≤ n := hlen ▸ List.length_filter_le _ _
      refine ⟨⟨_, .str (some (n, side)) _⟩, ?_, by simp [zeroFree]⟩
      simp only [fits, String.toList_ofList, Bool.and_eq_true, decide_eq_true_eq, List.all_eq_true]
      exact ⟨hle, fun c hc => hword c ((List.mem_filter.1 hc).1)⟩

/-- The number nearest to a decimal to which a number rounds rounds to the same decimal. -/
theorem decimal?_ofQuotient {v : Value} {places : Nat} {negative : Bool} {scaled : Nat}
    (h : v.decimal? places = some (negative, scaled)) :
    (Value.float (Binary64.ofQuotient negative scaled (Nat.pow 10 places))).decimal? places =
      some (negative, scaled) := by
  unfold Value.decimal? at h
  split at h
  · next sign m _ =>
    obtain ⟨rfl, rfl⟩ := Prod.mk.inj (Option.some.inj h)
    obtain ⟨m', hnearest, hplaces⟩ := m.exists_nearest_toPlaces places
    rw [Binary64.ofQuotient_eq, hnearest]
    simp [Value.decimal?, Value.number?, hplaces]
  · simp at h

/-- **What is read from a written token is written as the same token.**

**Proof sketch.** Only a number in fixed-point is not read back as it was, and it is read back as
the number nearest to its decimal, which rounds to the same decimal. -/
theorem writes_restored {format : Format} (range : format.InRange) {v : Value}
    {token : List Char} (h : format.Writes v token) (free : format.zeroFree v = true) :
    format.Writes (format.restored v) token := by
  by_cases hkind : format.kind = .float
  · obtain ⟨i, d, rfl⟩ := kind_eq_float_iff.1 hkind
    obtain ⟨negative, scaled, hdecimal, htoken⟩ := (writes_fixed_iff range.2.1).1 h
    rw [restored, hdecimal]
    exact (writes_fixed_iff range.2.1).2
      ⟨negative, scaled, decimal?_ofQuotient hdecimal, htoken⟩
  · rwa [restored_of_zeroFree hkind free]

end Format

/-- A field reads what its format reads. -/
theorem Field.read_eq_ok_iff {f : Field} {token : List Char} {v : Value} :
    f.read token = .ok v ↔ f.format.read token = .ok v := by
  rw [Field.read]
  cases f.format.read token <;> simp [Except.mapError]

end TypedNames
