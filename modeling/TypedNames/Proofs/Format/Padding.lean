import TypedNames.Proofs.Format.Reading

/-!
# Padded texts

A format of texts with a width fills a text up with zeros at one of its ends. The width counts
characters, and a text that is as long or longer is written as it is. Reading drops every zero
wherever it stands, so padding is undone at either end, but so are the zeros that the text had
itself: a text comes back exactly if it has none, and reading is settled after the first time.

## Main definitions

* `Format.IsPadded` — a token is a text with zeros at one end.

## Main results

* `Format.isPadded_strToken` — a text is written with zeros at the end that the format names.
* `Field.write_read_padded` — a text that is written with padding and read back.
-/

set_option autoImplicit false

namespace TypedNames

namespace Format

/-- **The token is the text with zeros at the given end**, and nothing else. -/
def IsPadded : Side → List Char → List Char → Prop
  | .front, text, token => ∃ count, token = List.replicate count '0' ++ text
  | .back, text, token => ∃ count, token = text ++ List.replicate count '0'

/-- A text is written with zeros at the end that the format names. -/
theorem isPadded_strToken (n : Nat) (side : Side) (text : List Char) :
    IsPadded side text (strToken (some (n, side)) text) := by
  cases side with
  | front => exact ⟨n - text.length, rfl⟩
  | back => exact ⟨n - text.length, rfl⟩

/-- A text without its zeros is the text itself exactly if it has none. -/
theorem ofList_filter_eq_iff (s : String) :
    String.ofList (s.toList.filter (· != '0')) = s ↔ '0' ∉ s.toList := by
  rw [← String.toList_inj, String.toList_ofList, List.filter_eq_self]
  constructor
  · intro free mem
    exact absurd (free '0' mem) (by decide)
  · intro notMem c mem
    exact bne_iff_ne.2 fun e => notMem (e ▸ mem)

end Format

namespace Field

variable {f : Field} {n : Nat} {side : Side}

/-- A padded text is read without its zeros. -/
theorem read_str (h : f.format = .str (some (n, side))) (token : List Char) :
    f.read token = .ok (.str (String.ofList (token.filter (· != '0')))) := by
  rw [read_eq_ok_iff, h]
  rfl

/-- **A text that is written with padding and read back.** The token has as many characters as the
width, or as the text if that is longer, and it is the text with zeros at the end that the format
names. What is read from it is the text without its zeros, so it is the text exactly if this has
none. The pattern of the field matches the token exactly if the text is not longer than the width
and made of word characters. Whatever text is read, from any token, is written and read again as
itself.

**Proof sketch.** Dropping the zeros of a token drops the padding and the zeros of the text. What is
read has no zeros any more, so nothing but padding is dropped the second time. -/
theorem write_read_padded (h : f.format = .str (some (n, side))) :
    (∀ s : String, ∃ token, f.write (.str s) = .ok token ∧
      token.length = max n s.length ∧ Format.IsPadded side s.toList token ∧
      f.read token = .ok (.str (String.ofList (s.toList.filter (· != '0')))) ∧
      (f.read token = .ok (.str s) ↔ '0' ∉ s.toList) ∧
      (f.pattern.Matches token ↔ s.length ≤ n ∧ ∀ c ∈ s.toList, Text.isWord c = true)) ∧
    ∀ token, ∃ v again, f.read token = .ok v ∧ f.write v = .ok again ∧ f.read again = .ok v := by
  constructor
  · intro s
    have hread : f.read (Format.strToken (some (n, side)) s.toList) =
        .ok (.str (String.ofList (s.toList.filter (· != '0')))) := by
      rw [read_str h, Format.filter_strToken]
    refine ⟨_, write_str h s, ?_, Format.isPadded_strToken n side s.toList, hread, ?_, ?_⟩
    · rw [Format.length_strToken, String.length_toList]
    · rw [hread, Except.ok.injEq, Value.str.injEq, Format.ofList_filter_eq_iff]
    · rw [pattern, h, Format.matches_strToken_iff]
      simp only [Format.fits, String.length_toList, Bool.and_eq_true, decide_eq_true_eq,
        List.all_eq_true]
  · intro token
    refine ⟨_, _, read_str h token, write_str h _, ?_⟩
    rw [read_str h, Format.filter_strToken, String.toList_ofList, List.filter_filter]
    simp only [Bool.and_self]

/-- A field of texts of four characters, with zeros in front. -/
def accent : Field where
  name := "accent"
  spec := "4str"
  format := .str (some (4, .front))
  name_ne := by decide
  parse_spec := by decide

/-- A character of several bytes counts once, and the zero of a text is lost with the padding. -/
theorem write_read_padded_accent :
    accent.format = .str (some (4, .front)) ∧ ∃ token, accent.write (.str "é0") = .ok token ∧
      token.length = max 4 "é0".length ∧ Format.IsPadded .front "é0".toList token ∧
      accent.read token = .ok (.str (String.ofList ("é0".toList.filter (· != '0')))) ∧
      (accent.read token = .ok (.str "é0") ↔ '0' ∉ "é0".toList) ∧
      (accent.pattern.Matches token ↔
        "é0".length ≤ 4 ∧ ∀ c ∈ "é0".toList, Text.isWord c = true) :=
  ⟨rfl, (write_read_padded rfl).1 "é0"⟩

end Field

end TypedNames
