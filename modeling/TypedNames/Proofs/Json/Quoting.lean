import TypedNames.Json.Text

/-!
# Quoted texts are read back

A text is written character by character: by a short escape, by number, or as it is. Reading takes
each of these for one piece, and no piece is a code unit that would pair up with the next one. So
the pieces of a quoted text make the text, whatever characters it has.

## Main definitions

* `Json.pieceOf` — the piece that a character is read as.

## Main results

* `Json.readPieces?_quoted` — the pieces of a quoted text.
* `Json.joinPieces?_map_pieceOf` — they make the text.
-/

set_option autoImplicit false

namespace TypedNames.Json

/-- The piece that a character of a quoted text is read as. -/
def pieceOf (c : Char) : Piece :=
  match quoteChar c with
  | '\\' :: 'u' :: _ => .unit c.toNat
  | _ => .char c

/-- The two last hexadecimal digits of a control character denote its number. -/
theorem unit?_control {n : Nat} (lt : n < 0x20) :
    unit? '0' '0' (Nat.digitChar (n / 16)) (Nat.digitChar (n % 16)) = some n := by
  have hall : ∀ n < 0x20,
      unit? '0' '0' (Nat.digitChar (n / 16)) (Nat.digitChar (n % 16)) = some n := by decide
  exact hall n lt

/-- A character is written by a short escape, by number if it is a control character, or as it is if
it is none, nor a quote nor a backslash. -/
theorem quoteChar_cases (c : Char) :
    (∃ e, quoteChar c = ['\\', e] ∧ escape? e = some c ∧ e ≠ 'u') ∨
    (quoteChar c =
        ['\\', 'u', '0', '0', Nat.digitChar (c.toNat / 16), Nat.digitChar (c.toNat % 16)] ∧
      c.toNat < 0x20) ∨
    (quoteChar c = [c] ∧ ¬ c.toNat < 0x20 ∧ c ≠ '"' ∧ c ≠ '\\') := by
  unfold quoteChar
  split
  · exact .inl ⟨'"', rfl, rfl, by decide⟩
  · exact .inl ⟨'\\', rfl, rfl, by decide⟩
  · exact .inl ⟨'b', rfl, rfl, by decide⟩
  · exact .inl ⟨'f', rfl, rfl, by decide⟩
  · exact .inl ⟨'n', rfl, rfl, by decide⟩
  · exact .inl ⟨'r', rfl, rfl, by decide⟩
  · exact .inl ⟨'t', rfl, rfl, by decide⟩
  · next hquote hslash _ _ _ _ _ =>
    split
    · next hcontrol => exact .inr (.inl ⟨rfl, hcontrol⟩)
    · next hcontrol => exact .inr (.inr ⟨rfl, hcontrol, hquote, hslash⟩)

/-- A short escape is read as its character. -/
theorem readPieces?_escape {e c : Char} (escape : escape? e = some c) (ne : e ≠ 'u')
    (rest : List Char) : readPieces? ('\\' :: e :: rest) =
      (readPieces? rest).map fun found => (.char c :: found.1, found.2) := by
  rw [readPieces?, escape]
  · cases readPieces? rest <;> rfl
  · exact fun _ _ _ _ _ h _ => ne h

/-- A character that needs no escape is read as it is. -/
theorem readPieces?_plain {c : Char} (plain : ¬ c.toNat < 0x20) (quote : c ≠ '"')
    (backslash : c ≠ '\\') (rest : List Char) : readPieces? (c :: rest) =
      (readPieces? rest).map fun found => (.char c :: found.1, found.2) := by
  rw [readPieces?, if_neg (not_or.2 ⟨plain, backslash⟩)]
  · cases readPieces? rest <;> rfl
  · exact quote
  · exact fun _ _ _ _ _ h _ => backslash h
  · exact fun _ _ h _ => backslash h

/-- What stands for a character is read as its piece. -/
theorem readPieces?_quoteChar (c : Char) (rest : List Char) :
    readPieces? (quoteChar c ++ rest) =
      (readPieces? rest).map fun found => (pieceOf c :: found.1, found.2) := by
  unfold pieceOf
  rcases quoteChar_cases c with ⟨e, hquote, hescape, hne⟩ | ⟨hquote, hcontrol⟩ |
    ⟨hquote, hplain, hne, hbackslash⟩
  · rw [hquote]
    split
    · next h =>
      obtain ⟨rfl, -⟩ := List.cons.inj (List.cons.inj h).2
      exact absurd rfl hne
    · exact readPieces?_escape hescape hne rest
  · rw [hquote]
    simp only [List.cons_append, List.nil_append]
    rw [readPieces?, unit?_control hcontrol]
    cases readPieces? rest <;> rfl
  · rw [hquote]
    split
    · next h => exact absurd (List.cons.inj h).1 hbackslash
    · exact readPieces?_plain hplain hne hbackslash rest

/-- **A quoted text is read as the pieces of its characters**, and what follows it is left. -/
theorem readPieces?_quoted (text rest : List Char) :
    readPieces? (text.flatMap quoteChar ++ '"' :: rest) = some (text.map pieceOf, rest) := by
  induction text with
  | nil => rfl
  | cons c text ih =>
    rw [List.flatMap_cons, List.append_assoc, readPieces?_quoteChar, ih]
    rfl

/-- A piece that stands for a character makes that character, whatever pieces follow. -/
theorem joinPieces?_pieceOf (c : Char) (pieces : List Piece) :
    joinPieces? (pieceOf c :: pieces) = (joinPieces? pieces).map (c :: ·) := by
  unfold pieceOf
  rcases quoteChar_cases c with
    ⟨e, hquote, -, hne⟩ | ⟨hquote, hcontrol⟩ | ⟨hquote, -, -, hbackslash⟩
  · rw [hquote]
    split
    · next h =>
      obtain ⟨rfl, -⟩ := List.cons.inj (List.cons.inj h).2
      exact absurd rfl hne
    · rw [joinPieces?]
  · rw [hquote]
    -- a control character is no half of a pair, so the next piece does not matter
    have hhigh : isHighUnit c.toNat = false := by
      rw [isHighUnit, Bool.and_eq_false_iff, decide_eq_false_iff_not]
      exact .inl (by omega)
    have hlow : isLowUnit c.toNat = false := by
      rw [isLowUnit, Bool.and_eq_false_iff, decide_eq_false_iff_not]
      exact .inl (by omega)
    have hchar : Char.ofNat c.toNat = c := Char.ofNat_toNat c
    match pieces with
    | [] => simp [joinPieces?, hhigh, hlow, hchar]
    | .char d :: rest => simp [joinPieces?, hhigh, hlow, hchar]
    | .unit low :: rest => simp [joinPieces?, hhigh, hlow, hchar]
  · rw [hquote]
    split
    · next h => exact absurd (List.cons.inj h).1 hbackslash
    · rw [joinPieces?]

/-- **The pieces of a quoted text make the text.** -/
theorem joinPieces?_map_pieceOf (text : List Char) :
    joinPieces? (text.map pieceOf) = some text := by
  induction text with
  | nil => rfl
  | cons c text ih =>
    rw [List.map_cons, joinPieces?_pieceOf, ih]
    rfl

end TypedNames.Json
