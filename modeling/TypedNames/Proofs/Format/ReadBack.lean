import TypedNames.Proofs.Binary64.Decimal
import TypedNames.Proofs.Format.Tokens

/-!
# Tokens that are read back

Every token that a format writes is read back, and the value that comes back is known: the value
itself, a text without its zeros if it was padded, or the number nearest to the decimal that was
written. Two values have the same token exactly when their format shows them alike.

## Main definitions

* `Value.decimal?` — the decimal to which a number rounds.
* `Format.restored` — the value that is read from the token of a value.
* `Format.zeroFree` — a text that is padded has no zeros of its own.
* `Format.Agree` — a format shows two values alike.

## Main results

* `Format.read_of_writes` — a written token is read back as the restored value.
* `Format.restored_of_zeroFree` — only numbers and texts with zeros are changed.
* `Format.token_eq_iff_agree` — tokens are equal exactly when the values are shown alike.
-/

set_option autoImplicit false

namespace TypedNames

/-- The decimal to which the value rounds if it is a finite number: whether it has a minus sign,
and its magnitude in units of the last of `places` decimal places. -/
def Value.decimal? (v : Value) (places : Nat) : Option (Bool × Nat) :=
  match v.number? with
  | some (.finite negative m) => some (negative && m.toPlaces places != 0, m.toPlaces places)
  | _ => none

namespace Format

/-- The value that is read from the token of a value. -/
def restored : Format → Value → Value
  | .fixed _ d, v =>
    match v.decimal? d with
    | some (negative, scaled) => .float (Binary64.ofQuotient negative scaled (Nat.pow 10 d))
    | none => v
  | .str (some _), .str s => .str (String.ofList (s.toList.filter (· != '0')))
  | _, v => v

/-- A text for a format that pads has no zeros of its own; all other values qualify. -/
def zeroFree : Format → Value → Bool
  | .str (some _), .str s => s.toList.all (· != '0')
  | _, _ => true

/-- The format shows the two values alike: numbers as the same decimal, other values only if they
are equal. -/
def Agree : Format → Value → Value → Prop
  | .fixed _ d, v, w => v.decimal? d = w.decimal? d
  | _, v, w => v = w

end Format

/-! ## Integers -/

/-- The sign of an integer and digits that denote its magnitude are read as the integer.

**Proof sketch.** The magnitude of an integer of 64 bits stays within the limit for its sign, so
the digits are read without a fault. -/
theorem Integer.parse_sign_append {text : List Char} (digits : IsDigits text) (ne : text ≠ [])
    {n : Int64} (value : ofDigits text = n.toInt.natAbs) :
    parse (sign (n.toInt < 0) ++ text) = .ok n := by
  have hmin : -2 ^ 63 ≤ n.toInt := n.le_toInt
  have hmax : n.toInt < 2 ^ 63 := n.toInt_lt
  have hread {limit : Nat} {excess : Fault} (hle : n.toInt.natAbs ≤ limit) :
      readUpTo limit excess 0 text = .ok n.toInt.natAbs := by
    rw [ofDigits] at value
    rw [readUpTo_eq_ok digits (by omega), value]
  obtain ⟨c, rest, rfl⟩ := List.exists_cons_of_ne_nil ne
  have hc : c.isDigit = true := digits c List.mem_cons_self
  by_cases hneg : n.toInt < 0
  · have hle : n.toInt.natAbs ≤ halfRange := by
      rw [halfRange]
      omega
    have hvalue : Int64.ofInt (-(n.toInt.natAbs : Int)) = n := by
      rw [show -(n.toInt.natAbs : Int) = n.toInt by omega, Int64.ofInt_toInt]
    simp only [hneg, decide_true, sign, if_true, List.singleton_append]
    simp only [parse, hread hle, bind, Except.bind, pure, Except.pure, Except.map, hvalue]
  · have hle : n.toInt.natAbs ≤ halfRange - 1 := by
      rw [halfRange]
      omega
    have hvalue : Int64.ofInt (n.toInt.natAbs : Int) = n := by
      rw [show (n.toInt.natAbs : Int) = n.toInt by omega, Int64.ofInt_toInt]
    have hminus : c ≠ '-' := ne_of_isDigit hc (by decide)
    have hplus : c ≠ '+' := ne_of_isDigit hc (by decide)
    simp only [hneg, decide_false, sign, Bool.false_eq_true, if_false, List.nil_append]
    unfold parse
    split
    · next e => exact absurd e (List.cons_ne_nil _ _)
    · next e => exact absurd (List.cons.inj e).1 hminus
    · next e => exact absurd (List.cons.inj e).1 hplus
    · next e => exact absurd (List.cons.inj e).1 hminus
    · next e => exact absurd (List.cons.inj e).1 hplus
    · simp only [hread hle, bind, Except.bind, pure, Except.pure, Except.map, hvalue]

namespace Format

/-- The token of an integer is read back as the integer. -/
theorem parse_intToken (width : Option Nat) (n : Int64) :
    Integer.parse (intToken width n) = .ok n := by
  refine Integer.parse_sign_append (Integer.isDigits_leftpad_digits _ _) ?_
    (Integer.ofDigits_leftpad_digits _ _)
  have hone := Integer.one_le_length_digits n.toInt.natAbs
  rw [← List.length_pos_iff, Integer.length_leftpad_digits]
  omega

/-! ## Fixed-point numbers -/

/-- A fixed-point format writes the numbers that have a decimal, as their sign and the text of
their magnitude. -/
theorem writes_fixed_iff {i d : Nat} (pos : 1 ≤ d) {v : Value} {token : List Char} :
    (Format.fixed i d).Writes v token ↔ ∃ negative scaled, v.decimal? d = some (negative, scaled) ∧
      token = Integer.sign negative ++ Binary64.Magnitude.pointText scaled i d := by
  constructor
  · intro h
    cases h with
    | @fixed i d v negative m number =>
      exact ⟨_, _, by rw [Value.decimal?, number], m.fixedText_eq pos negative i⟩
  · rintro ⟨negative, scaled, hdecimal, rfl⟩
    unfold Value.decimal? at hdecimal
    split at hdecimal
    · next number =>
      obtain ⟨rfl, rfl⟩ := Prod.mk.inj (Option.some.inj hdecimal)
      rw [← Binary64.Magnitude.fixedText_eq pos]
      exact .fixed number
    · simp at hdecimal

/-- A fixed-point text with a sign is read as the number nearest to the decimal. -/
theorem parse_pointText {least places : Nat} (pos : 1 ≤ places) (le : places ≤ 400)
    (negative : Bool) (scaled : Nat) :
    Binary64.parse (Integer.sign negative ++ Binary64.Magnitude.pointText scaled least places) =
      .ok (Binary64.ofQuotient negative scaled (Nat.pow 10 places)) := by
  have hlen := Integer.length_leftpad_digits_mod pos scaled
  have hne : (Integer.digits (scaled / Nat.pow 10 places)).leftpad least '0' ≠ [] := by
    have hone := Integer.one_le_length_digits (scaled / Nat.pow 10 places)
    rw [← List.length_pos_iff, Integer.length_leftpad_digits]
    omega
  have hsign : decide (Integer.sign negative = ['-']) = negative := by
    cases negative <;> rfl
  rw [Binary64.Magnitude.pointText, Binary64.parse_eq_ofQuotient (isSign_sign negative) hne
    (Integer.isDigits_leftpad_digits _ _) (Integer.isDigits_leftpad_digits _ _) (by omega),
    Binary64.Magnitude.ofDigits_pointDigits pos, hlen, hsign]

/-! ## Texts -/

/-- Without the zeros a padded text is the text without its zeros. -/
theorem filter_strToken (n : Nat) (side : Side) (s : List Char) :
    (strToken (some (n, side)) s).filter (· != '0') = s.filter (· != '0') := by
  have hzeros (k : Nat) : (List.replicate k '0').filter (· != '0') = [] := by
    rw [List.filter_replicate]
    rfl
  cases side
  · rw [strToken, List.leftpad, List.filter_append, hzeros, List.nil_append]
  · rw [strToken, List.rightpad, List.filter_append, hzeros, List.append_nil]

/-! ## All formats -/

/-- **A written token is read back as the restored value.**

**Proof sketch.** By the format. A numeral denotes what was written, since padding does not change
the number that digits denote; a truth value is one of two words; and dropping all zeros of a
padded text leaves what dropping them from the text itself would leave. -/
theorem read_of_writes {format : Format} (range : format.InRange) {v : Value} {token : List Char}
    (h : format.Writes v token) : format.read token = .ok (format.restored v) := by
  cases format with
  | fixed i d =>
    obtain ⟨-, hpos, hle⟩ := range
    obtain ⟨negative, scaled, hdecimal, rfl⟩ := (writes_fixed_iff hpos).1 h
    have hle' : d ≤ 400 := Nat.le_trans hle (by decide)
    rw [read, parse_pointText hpos hle', restored, hdecimal]
    rfl
  | bool =>
    cases h with
    | bool b => cases b <;> rfl
  | int width =>
    cases h with
    | int _ n =>
      rw [read, parse_intToken]
      rfl
  | str padding =>
    cases h with
    | str _ s =>
      rcases padding with _ | ⟨n, side⟩
      · rw [read, strToken, String.ofList_toList]
        rfl
      · rw [read, filter_strToken]
        rfl

/-- A value that is no number of a fixed-point format, and no padded text with zeros of its own, is
restored as it is. -/
theorem restored_of_zeroFree {format : Format} (kind_ne : format.kind ≠ .float) {v : Value}
    (free : format.zeroFree v = true) : format.restored v = v := by
  cases format with
  | fixed i d => exact absurd rfl kind_ne
  | bool => rfl
  | int width => rfl
  | str padding =>
    rcases padding with _ | ⟨n, side⟩
    · rfl
    · cases v with
      | str s =>
        have hfilter : s.toList.filter (· != '0') = s.toList :=
          List.filter_eq_self.2 (by simpa only [zeroFree, List.all_eq_true] using free)
        rw [restored, hfilter, String.ofList_toList]
      | bool b => rfl
      | int n => rfl
      | float x => rfl

/-- A fixed-point text with a sign shows the sign and the magnitude. -/
theorem pointText_inj {least places : Nat} (pos : 1 ≤ places) {a b : Bool} {m n : Nat}
    (h : Integer.sign a ++ Binary64.Magnitude.pointText m least places =
      Integer.sign b ++ Binary64.Magnitude.pointText n least places) : a = b ∧ m = n := by
  have hdigits (k : Nat) :
      (Binary64.Magnitude.pointText k least places).filter Char.isDigit =
        (Integer.digits (k / Nat.pow 10 places)).leftpad least '0' ++
          (Integer.digits (k % Nat.pow 10 places)).leftpad places '0' := by
    rw [Binary64.Magnitude.pointText, List.filter_append, List.filter_cons_of_neg (by decide),
      List.filter_eq_self.2 (Integer.isDigits_leftpad_digits _ _),
      List.filter_eq_self.2 (Integer.isDigits_leftpad_digits _ _)]
  have hminus (k : Nat) : '-' ∉ Binary64.Magnitude.pointText k least places := by
    have hwhole := (Integer.isDigits_leftpad_digits least (k / Nat.pow 10 places)).notMem
      (show '-'.isDigit = false by decide)
    have hfraction := (Integer.isDigits_leftpad_digits places (k % Nat.pow 10 places)).notMem
      (show '-'.isDigit = false by decide)
    rw [Binary64.Magnitude.pointText, List.mem_append, List.mem_cons, not_or, not_or]
    exact ⟨hwhole, by decide, hfraction⟩
  have hsign (c : Bool) (k : Nat) :
      '-' ∈ Integer.sign c ++ Binary64.Magnitude.pointText k least places ↔ c = true := by
    cases c <;> simp [Integer.sign, hminus]
  have hfilter (c : Bool) : (Integer.sign c).filter Char.isDigit = [] := by
    cases c <;> rfl
  constructor
  · rw [Bool.eq_iff_iff, ← hsign a m, ← hsign b n, h]
  · have e := congrArg (List.filter Char.isDigit) h
    rw [List.filter_append, List.filter_append, hfilter, hfilter, List.nil_append,
      List.nil_append, hdigits, hdigits] at e
    have e' := congrArg Integer.ofDigits e
    rwa [Binary64.Magnitude.ofDigits_pointDigits pos,
      Binary64.Magnitude.ofDigits_pointDigits pos] at e'

/-- **Two written tokens are equal exactly when the format shows the values alike.**

**Proof sketch.** A fixed-point text shows its decimal, and otherwise the value is read back from
the token, since texts with zeros are excluded. -/
theorem token_eq_iff_agree {format : Format} (range : format.InRange) {v w : Value}
    {x y : List Char} (hv : format.Writes v x) (hw : format.Writes w y)
    (free : format.zeroFree v = true) (free' : format.zeroFree w = true) :
    x = y ↔ format.Agree v w := by
  by_cases hkind : format.kind = .float
  · obtain ⟨i, d, rfl⟩ := kind_eq_float_iff.1 hkind
    obtain ⟨a, m, hm, rfl⟩ := (writes_fixed_iff range.2.1).1 hv
    obtain ⟨b, n, hn, rfl⟩ := (writes_fixed_iff range.2.1).1 hw
    rw [Agree, hm, hn, Option.some.injEq, Prod.mk.injEq]
    constructor
    · exact pointText_inj range.2.1
    · rintro ⟨rfl, rfl⟩
      rfl
  · have hagree : format.Agree v w ↔ v = w := by
      cases format with
      | fixed i d => exact absurd rfl hkind
      | bool => exact Iff.rfl
      | int width => exact Iff.rfl
      | str padding => exact Iff.rfl
    rw [hagree]
    constructor
    · rintro rfl
      have hread := read_of_writes range hv
      rw [read_of_writes range hw, restored_of_zeroFree hkind free,
        restored_of_zeroFree hkind free'] at hread
      exact (Except.ok.inj hread).symm
    · rintro rfl
      cases hv <;> cases hw
      · exact absurd rfl hkind
      · rfl
      · rfl
      · rfl

end Format

end TypedNames
