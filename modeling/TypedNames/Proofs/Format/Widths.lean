import TypedNames.Field

/-!
# Widths that specifiers name

A specifier names widths from `1` to `maxWidth` and no others. Every field is made from a
specifier, so its widths lie in this range, and no statement about fields needs a bound on widths
among its hypotheses.

## Main definitions

* `Format.InRange` — all widths of a format lie from `1` to `maxWidth`.

## Main results

* `Format.inRange_of_parse` — the format that a specifier names is in range.
* `Field.inRange` — so is the format of a field.
-/

set_option autoImplicit false

namespace TypedNames

namespace Format

/-- All widths of the format lie from `1` to the largest width. -/
def InRange : Format → Prop
  | .fixed i d => (1 ≤ i ∧ i ≤ maxWidth) ∧ (1 ≤ d ∧ d ≤ maxWidth)
  | .int (some n) => 1 ≤ n ∧ n ≤ maxWidth
  | .str (some (n, _)) => 1 ≤ n ∧ n ≤ maxWidth
  | _ => True

/-- The specifier of texts without a width. -/
theorem parse_str : parse "str" = .ok (.str none) := by
  rfl

/-- A width that is read lies from `1` to the largest width. -/
theorem bounds_of_readWidth {text : List Char} {n : Nat} (h : readWidth text = .ok n) :
    1 ≤ n ∧ n ≤ maxWidth := by
  unfold readWidth at h
  split at h
  · simp at h
  · split at h
    · simp at h
    · split at h
      · simp at h
      · split at h
        · simp at h
        · have e : Integer.ofDigits text = n := by simpa using h
          omega

/-- A width that is read and then put into a format lies in the range. -/
theorem exists_of_map_readWidth {text : List Char} {make : Nat → Format} {format : Format}
    (h : (readWidth text).map make = .ok format) :
    ∃ n, format = make n ∧ 1 ≤ n ∧ n ≤ maxWidth := by
  cases hw : readWidth text with
  | error fault => simp [hw, Except.map] at h
  | ok n =>
    have e : make n = format := by simpa [hw, Except.map] using h
    exact ⟨n, e.symm, bounds_of_readWidth hw⟩

/-- A fixed-point format that a specifier names is in range. -/
theorem inRange_of_parseFixed {spec : List Char} {format : Format}
    (h : parseFixed spec = .ok format) : format.InRange := by
  unfold parseFixed at h
  split at h
  · next rest =>
    split at h
    · cases hi : readWidth (rest.takeWhile (· != '.')) with
      | error fault => simp [hi, bind, Except.bind] at h
      | ok i =>
        cases hd : readWidth (rest.dropWhile (· != '.')).tail with
        | error fault => simp [hi, hd, bind, Except.bind] at h
        | ok d =>
          have e : Format.fixed i d = format := by
            simpa [hi, hd, bind, Except.bind, pure, Except.pure] using h
          subst e
          exact ⟨bounds_of_readWidth hi, bounds_of_readWidth hd⟩
    · simp at h
  · simp at h

/-- An integer format that a specifier names is in range. -/
theorem inRange_of_parseInt {spec : List Char} {format : Format}
    (h : parseInt spec = .ok format) : format.InRange := by
  unfold parseInt at h
  split at h
  · have e : Format.int none = format := by simpa using h
    subst e
    exact trivial
  · split at h
    · obtain ⟨n, rfl, bounds⟩ := exists_of_map_readWidth h
      exact bounds
    · simp at h

/-- A text format that a specifier names is in range. -/
theorem inRange_of_parseStr {spec : List Char} {format : Format}
    (h : parseStr spec = .ok format) : format.InRange := by
  unfold parseStr at h
  split at h
  · have e : Format.str none = format := by simpa using h
    subst e
    exact trivial
  · split at h
    · obtain ⟨n, rfl, bounds⟩ := exists_of_map_readWidth h
      exact bounds
    · split at h
      · obtain ⟨n, rfl, bounds⟩ := exists_of_map_readWidth h
        exact bounds
      · simp at h

/-- **The format that a specifier names is in range.** -/
theorem inRange_of_parse {spec : String} {format : Format} (h : parse spec = .ok format) :
    format.InRange := by
  unfold parse parseChars at h
  split at h
  · exact inRange_of_parseFixed h
  · split at h
    · unfold parseBool at h
      split at h
      · have e : Format.bool = format := by simpa using h
        subst e
        exact trivial
      · simp at h
    · split at h
      · exact inRange_of_parseInt h
      · split at h
        · exact inRange_of_parseStr h
        · simp at h

end Format

/-- The format of a field is in range. -/
theorem Field.inRange (f : Field) : f.format.InRange :=
  Format.inRange_of_parse f.parse_spec

end TypedNames
