import TypedNames.Binary64.Rounding
import TypedNames.Integer

/-!
# JSON numbers

A JSON number is read in two steps. Its spelling is first taken apart: sign, digits in front of
the point, digits behind it, exponent. Then a value is computed, which fails if it is out of
range. Places where a number is only passed over need the first step alone.

A number without fraction and exponent is an integer if it fits into 64 bits, signed or unsigned.
Every other number is computed in double precision arithmetic: the leading digits, as many as fit
into 64 bits, are converted and then multiplied or divided by a power of ten. Each of these steps
rounds, so the result need not be the number nearest to the spelling.

## Main definitions

* `Json.NumberText` — the parts of a spelling.
* `Json.readNumber?` — the spelling at the start of a text, and what follows it.
* `Json.Number` — the value of a number.
* `Json.NumberText.value?` — the value of a spelling.
-/

set_option autoImplicit false

namespace TypedNames.Json

/-- The parts of the spelling of a number. -/
structure NumberText where
  /-- Whether there is a minus sign. -/
  negative : Bool
  /-- The digits in front of the point. -/
  whole : List Char
  /-- The digits behind the point; none if there is no point. -/
  fraction : List Char
  /-- The digits of the exponent and whether it has a minus sign, if there is one. -/
  exponent : Option (Bool × List Char)
  deriving DecidableEq, Repr

/-- The digits in front of the point, and what follows them: a zero stands alone. -/
def readWhole? : List Char → Option (List Char × List Char)
  | [] => none
  | c :: rest =>
    if c = '0' then
      if (rest.takeWhile Char.isDigit).isEmpty then some (['0'], rest) else none
    else if c.isDigit then some (c :: rest.takeWhile Char.isDigit, rest.dropWhile Char.isDigit)
    else none

/-- A run of at least one digit, and what follows it. -/
def readDigits? (text : List Char) : Option (List Char × List Char) :=
  if (text.takeWhile Char.isDigit).isEmpty then none
  else some (text.takeWhile Char.isDigit, text.dropWhile Char.isDigit)

/-- The digits behind the point if there is a point, and what follows them. -/
def readFraction? : List Char → Option (List Char × List Char)
  | '.' :: rest => readDigits? rest
  | text => some ([], text)

/-- The exponent if there is one, and what follows it. -/
def readExponent? : List Char → Option (Option (Bool × List Char) × List Char)
  | [] => some (none, [])
  | c :: rest =>
    if c = 'e' ∨ c = 'E' then
      match rest with
      | '-' :: power => (readDigits? power).map fun p => (some (true, p.1), p.2)
      | '+' :: power => (readDigits? power).map fun p => (some (false, p.1), p.2)
      | power => (readDigits? power).map fun p => (some (false, p.1), p.2)
    else some (none, c :: rest)

/-- The number behind its sign at the start of a text, and what follows it. -/
def readUnsigned? (negative : Bool) (text : List Char) : Option (NumberText × List Char) := do
  let (whole, rest) ← readWhole? text
  let (fraction, rest) ← readFraction? rest
  let (exponent, rest) ← readExponent? rest
  return (⟨negative, whole, fraction, exponent⟩, rest)

/-- The number at the start of a text, and what follows it. -/
def readNumber? : List Char → Option (NumberText × List Char)
  | '-' :: rest => readUnsigned? true rest
  | text => readUnsigned? false text

/-- The value of a JSON number. -/
inductive Number
  /-- An integer that fits into 64 bits, signed or unsigned. -/
  | integer (i : Int)
  /-- A finite double precision number. -/
  | float (negative : Bool) (magnitude : Binary64.Magnitude)
  deriving DecidableEq

/-- The leading digits that go on from `start` without passing 64 bits, read as a number, and the
digits that are left over. -/
def takeSignificant : Nat → List Char → Nat × List Char
  | start, [] => (start, [])
  | start, c :: rest =>
    if 10 * start + (c.toNat - '0'.toNat) < Integer.wordRange then
      takeSignificant (10 * start + (c.toNat - '0'.toNat)) rest
    else (start, c :: rest)

/-- A written exponent from here on, which is `2³¹`, is out of every range. -/
abbrev exponentLimit : Nat := 0x80000000

/-- The largest power of ten in double precision has this exponent. -/
def maxPower : Nat := 308

/-- The double precision number nearest to a power of ten. -/
def powerOfTen (k : Nat) : Binary64.Magnitude :=
  (Binary64.Magnitude.nearest? (Nat.pow 10 k) 1).getD .zero

/-- The magnitude times `10 ^ exponent`, rounded after each step; none if it gets too large. -/
def scale? (m : Binary64.Magnitude) (exponent : Int) : Option Binary64.Magnitude :=
  if exponent.natAbs ≤ maxPower then
    if 0 ≤ exponent then m.mul? (powerOfTen exponent.natAbs)
    else m.div? (powerOfTen exponent.natAbs)
  else if m = .zero then some .zero
  else if 0 ≤ exponent then none
  else (m.div? (powerOfTen maxPower)).bind fun quotient => scale? quotient (exponent + maxPower)
termination_by exponent.natAbs
decreasing_by simp only [maxPower] at *; omega

/-- The magnitude of `significand * 10 ^ exponent`. -/
def scaleInteger? (significand : Nat) (exponent : Int) : Option Binary64.Magnitude :=
  (Binary64.Magnitude.nearest? significand 1).bind fun m => scale? m exponent

namespace NumberText

/-- The magnitude of a number by double precision arithmetic. -/
def magnitude? (n : NumberText) : Option Binary64.Magnitude :=
  let (whole, dropped) := takeSignificant 0 n.whole
  let (significand, unused) := takeSignificant whole n.fraction
  let shift : Int := dropped.length - (n.fraction.length - unused.length)
  match n.exponent with
  | none => scaleInteger? significand shift
  | some (negative, power) =>
    if Integer.ofDigits power < exponentLimit then
      scaleInteger? significand
        (if negative then shift - Integer.ofDigits power else shift + Integer.ofDigits power)
    else if negative || significand = 0 then some .zero
    else none

/-- The value of a number, if it is in range. A negative zero is no integer, and neither is a
negative number below those of 64 bits. -/
def value? (n : NumberText) : Option Number :=
  let whole := Integer.ofDigits n.whole
  if n.fraction = [] ∧ n.exponent = none ∧ whole < Integer.wordRange then
    if n.negative then
      if 0 < whole ∧ whole ≤ Integer.halfRange then some (.integer (-whole))
      else (Binary64.Magnitude.nearest? whole 1).map (.float true)
    else some (.integer whole)
  else n.magnitude?.map (.float n.negative)

end NumberText

/-- The text behind a number is shorter than the text with it. -/
theorem length_lt_of_readNumber? {text : List Char} {n : NumberText} {after : List Char}
    (h : readNumber? text = some (n, after)) : after.length < text.length := by
  have drop (l : List Char) : (l.dropWhile Char.isDigit).length ≤ l.length :=
    (List.dropWhile_sublist _).length_le
  have whole {t a d} (h : readWhole? t = some (d, a)) : a.length < t.length := by
    cases t with
    | nil => simp [readWhole?] at h
    | cons c rest =>
      have := drop rest
      simp only [readWhole?] at h
      split at h
      · split at h
        · simp only [Option.some.injEq, Prod.mk.injEq] at h
          simp [← h.2]
        · simp at h
      · split at h
        · simp only [Option.some.injEq, Prod.mk.injEq] at h
          simp only [← h.2, List.length_cons]
          omega
        · simp at h
  have digits {t a d} (h : readDigits? t = some (d, a)) : a.length ≤ t.length := by
    unfold readDigits? at h
    split at h
    · simp at h
    · simp only [Option.some.injEq, Prod.mk.injEq] at h
      exact h.2 ▸ drop t
  have fraction {t a d} (h : readFraction? t = some (d, a)) : a.length ≤ t.length := by
    unfold readFraction? at h
    split at h
    · exact Nat.le_succ_of_le (digits h)
    · simp only [Option.some.injEq, Prod.mk.injEq] at h
      simp [← h.2]
  have mapped {t a} {e : Option (Bool × List Char)} {s : Bool}
      (h : ((readDigits? t).map fun p => (some (s, p.1), p.2)) = some (e, a)) :
      a.length ≤ t.length := by
    simp only [Option.map_eq_some_iff, Prod.mk.injEq, Prod.exists] at h
    obtain ⟨_, _, hp, _, rfl⟩ := h
    exact digits hp
  have exponent {t a d} (h : readExponent? t = some (d, a)) : a.length ≤ t.length := by
    cases t with
    | nil => simp only [readExponent?, Option.some.injEq, Prod.mk.injEq] at h; simp [← h.2]
    | cons c rest =>
      simp only [readExponent?] at h
      split at h
      · split at h <;> have := mapped h <;> simp_all <;> omega
      · simp only [Option.some.injEq, Prod.mk.injEq] at h
        simp [← h.2]
  have unsigned {s t} (h : readUnsigned? s t = some (n, after)) : after.length < t.length := by
    simp only [readUnsigned?, Option.bind_eq_bind, Option.bind_eq_some_iff, Option.pure_def,
      Option.some.injEq, Prod.exists, Prod.mk.injEq] at h
    obtain ⟨_, _, hw, _, _, hf, _, _, he, _, rfl⟩ := h
    have := whole hw
    have := fraction hf
    have := exponent he
    omega
  unfold readNumber? at h
  split at h
  · exact Nat.lt_succ_of_lt (unsigned h)
  · exact unsigned h

end TypedNames.Json
