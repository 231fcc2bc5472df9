import TypedNames.Json.Number
import TypedNames.Proofs.Format.Shapes

/-!
# Spellings of numbers

The parts of a number spell it in one way: the sign, the digits in front of the point, the point and
the digits behind it if there are any, and the exponent with its sign. What is spelled like this is
read as the same parts, provided that what follows does not go on with the number.

## Main definitions

* `Json.NumberText.spelling` — the parts of a number, put together.
* `Json.NumberText.IsSpelled` — the parts are digits where they should be.
* `Json.Stops` — a text does not go on with a number in front of it.

## Main results

* `Json.readNumber?_spelling` — a spelling is read as its parts.
-/

set_option autoImplicit false

namespace TypedNames.Json

/-- The digits behind the point with the point, if there are any. -/
def fractionText : List Char → List Char
  | [] => []
  | digits => '.' :: digits

/-- The exponent with its mark and sign, if there is one. -/
def powerText : Option (Bool × List Char) → List Char
  | none => []
  | some (negative, digits) => 'e' :: (if negative then '-' else '+') :: digits

namespace NumberText

/-- The parts of a number, put together. -/
def spelling (n : NumberText) : List Char :=
  Integer.sign n.negative ++ (n.whole ++ (fractionText n.fraction ++ powerText n.exponent))

/-- The parts of a number are digits where they should be, and no zero stands in front of other
digits before the point. -/
structure IsSpelled (n : NumberText) : Prop where
  isDigits_whole : IsDigits n.whole
  whole_ne_nil : n.whole ≠ []
  whole_eq_zero : n.whole.head? = some '0' → n.whole = ['0']
  isDigits_fraction : IsDigits n.fraction
  isDigits_exponent : ∀ p ∈ n.exponent, IsDigits p.2
  exponent_ne_nil : ∀ p ∈ n.exponent, p.2 ≠ []

end NumberText

/-- The text does not go on with a number in front of it. -/
def Stops (rest : List Char) : Prop :=
  ∀ c ∈ rest.head?, c.isDigit = false ∧ c ≠ '.' ∧ c ≠ 'e' ∧ c ≠ 'E'

/-- The text does not go on with digits in front of it. -/
def StopsDigits (rest : List Char) : Prop :=
  ∀ c ∈ rest.head?, c.isDigit = false

variable {digits rest : List Char}

/-- What does not go on with a number does not go on with digits. -/
theorem Stops.stopsDigits (h : Stops rest) : StopsDigits rest :=
  fun c hc => (h c hc).1

/-- Behind digits the run of digits ends where the text stops them. -/
theorem takeWhile_isDigit_append (hdigits : IsDigits digits) (stops : StopsDigits rest) :
    (digits ++ rest).takeWhile Char.isDigit = digits := by
  rw [List.takeWhile_append_of_pos hdigits]
  cases rest with
  | nil => rw [List.takeWhile_nil, List.append_nil]
  | cons c rest =>
    have hc : ¬ c.isDigit = true := by simp [stops c rfl]
    rw [List.takeWhile_cons_of_neg hc, List.append_nil]

/-- Behind digits the rest starts where the text stops them. -/
theorem dropWhile_isDigit_append (hdigits : IsDigits digits) (stops : StopsDigits rest) :
    (digits ++ rest).dropWhile Char.isDigit = rest := by
  rw [List.dropWhile_append_of_pos hdigits]
  cases rest with
  | nil => rfl
  | cons c rest => exact List.dropWhile_cons_of_neg (by simp [stops c rfl])

/-- Digits in front of what stops them are read. -/
theorem readDigits?_append (hdigits : IsDigits digits) (ne : digits ≠ [])
    (stops : StopsDigits rest) : readDigits? (digits ++ rest) = some (digits, rest) := by
  rw [readDigits?, takeWhile_isDigit_append hdigits stops, dropWhile_isDigit_append hdigits stops,
    if_neg]
  simpa using ne

/-- Digits in front of a point are read, unless a zero stands in front of other digits. -/
theorem readWhole?_append (hdigits : IsDigits digits) (ne : digits ≠ [])
    (zero : digits.head? = some '0' → digits = ['0']) (stops : StopsDigits rest) :
    readWhole? (digits ++ rest) = some (digits, rest) := by
  cases digits with
  | nil => exact absurd rfl ne
  | cons c digits =>
    have htail : IsDigits digits := fun d hd => hdigits d (List.mem_cons_of_mem c hd)
    rw [List.cons_append, readWhole?, takeWhile_isDigit_append htail stops,
      dropWhile_isDigit_append htail stops]
    by_cases hc : c = '0'
    · subst hc
      obtain rfl : digits = [] := (List.cons.inj (zero rfl)).2
      rfl
    · rw [if_neg hc, if_pos (hdigits c List.mem_cons_self)]

/-- A fraction is read, or its absence is. -/
theorem readFraction?_append (hdigits : IsDigits digits) (stops : StopsDigits rest)
    (point : '.' ∉ rest.head?) :
    readFraction? (fractionText digits ++ rest) = some (digits, rest) := by
  cases digits with
  | nil =>
    rw [fractionText, List.nil_append]
    unfold readFraction?
    split
    · exact absurd rfl point
    · rfl
  | cons c digits => exact readDigits?_append hdigits (List.cons_ne_nil c digits) stops

/-- An exponent is read, or its absence is. -/
theorem readExponent?_append {exponent : Option (Bool × List Char)}
    (hdigits : ∀ p ∈ exponent, IsDigits p.2) (ne : ∀ p ∈ exponent, p.2 ≠ []) (stops : Stops rest) :
    readExponent? (powerText exponent ++ rest) = some (exponent, rest) := by
  match exponent with
  | none =>
    rw [powerText, List.nil_append]
    cases rest with
    | nil => rfl
    | cons c rest =>
      obtain ⟨-, -, hlower, hupper⟩ := stops c rfl
      exact if_neg (not_or.2 ⟨hlower, hupper⟩)
  | some (negative, digits) =>
    have hread := readDigits?_append (hdigits _ rfl) (ne _ rfl) stops.stopsDigits
    dsimp only at hread
    cases negative <;> simp [powerText, readExponent?, hread]

/-- What may stand behind the digits in front of the point stops them. -/
theorem stopsDigits_fractionText (digits : List Char) (exponent : Option (Bool × List Char))
    (stops : Stops rest) : StopsDigits (fractionText digits ++ (powerText exponent ++ rest)) := by
  cases digits with
  | nil =>
    cases exponent with
    | none => exact stops.stopsDigits
    | some p =>
      intro c hc
      obtain rfl : 'e' = c := by simpa [fractionText, powerText] using hc
      rfl
  | cons d digits =>
    intro c hc
    obtain rfl : '.' = c := by simpa [fractionText] using hc
    rfl

/-- What may stand behind the fraction stops digits and is no point. -/
theorem stops_powerText (exponent : Option (Bool × List Char)) (stops : Stops rest) :
    StopsDigits (powerText exponent ++ rest) ∧ '.' ∉ (powerText exponent ++ rest).head? := by
  cases exponent with
  | none => exact ⟨stops.stopsDigits, fun h => (stops '.' h).2.1 rfl⟩
  | some p => exact ⟨stopsDigits_fractionText [] (some p) stops, by simp [powerText]⟩

variable {n : NumberText}

/-- The parts behind the sign are read. -/
theorem readUnsigned?_append (h : n.IsSpelled) (stops : Stops rest) :
    readUnsigned? n.negative
      (n.whole ++ (fractionText n.fraction ++ (powerText n.exponent ++ rest))) =
        some (n, rest) := by
  obtain ⟨hpower, hpoint⟩ := stops_powerText n.exponent stops
  simp only [readUnsigned?,
    readWhole?_append h.isDigits_whole h.whole_ne_nil h.whole_eq_zero
      (stopsDigits_fractionText n.fraction n.exponent stops),
    readFraction?_append h.isDigits_fraction hpower hpoint,
    readExponent?_append h.isDigits_exponent h.exponent_ne_nil stops,
    Option.bind_eq_bind, Option.bind_some, Option.pure_def]

/-- A spelling starts with a minus or a digit. -/
theorem exists_spelling_eq_cons (h : n.IsSpelled) :
    ∃ c text, n.spelling = c :: text ∧ (c = '-' ∨ c.isDigit = true) := by
  cases hwhole : n.whole with
  | nil => exact absurd hwhole h.whole_ne_nil
  | cons c digits =>
    rw [NumberText.spelling, hwhole]
    cases n.negative with
    | true => exact ⟨'-', _, rfl, .inl rfl⟩
    | false =>
      refine ⟨c, _, rfl, .inr (h.isDigits_whole c ?_)⟩
      rw [hwhole]
      exact List.mem_cons_self

/-- **A spelling is read as its parts**, and what follows it is left. -/
theorem readNumber?_spelling (h : n.IsSpelled) (stops : Stops rest) :
    readNumber? (n.spelling ++ rest) = some (n, rest) := by
  have hread := readUnsigned?_append h stops
  rw [NumberText.spelling]
  simp only [List.append_assoc]
  cases hnegative : n.negative with
  | true =>
    rw [hnegative] at hread
    exact hread
  | false =>
    rw [hnegative] at hread
    rw [Integer.sign, if_neg (by decide), List.nil_append]
    unfold readNumber?
    split
    · next more heq =>
      -- no digit is a minus, so the other branch of the reader is the one
      cases hwhole : n.whole with
      | nil => exact absurd hwhole h.whole_ne_nil
      | cons c digits =>
        rw [hwhole] at heq
        have hdigit : c.isDigit = true := h.isDigits_whole c (by simp [hwhole])
        exact absurd (List.cons.inj heq).1 (ne_of_isDigit hdigit (by decide))
    · exact hread

end TypedNames.Json
