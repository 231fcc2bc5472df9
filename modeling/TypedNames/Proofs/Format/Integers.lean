import TypedNames.Proofs.Integer.Numerals

/-!
# Tokens of integers

The token of an integer is its text with zeros between sign and digits. The width counts the sign,
in the token as in the pattern: the zeros fill up what the text leaves of the width, and a token
with a minus needs one digit less to match. So the token is as long as the width or as the text, no
token of the same integer is shorter, and different integers have different tokens.

## Main results

* `Format.intToken_eq` — the text of an integer in its token.
* `Format.length_intToken` — how long the token of an integer is.
* `Format.le_length_of_matches_int` — how long a token that matches is at least.
* `Format.intToken_shortest` — the token of an integer, from all sides.
-/

set_option autoImplicit false

namespace TypedNames.Format

/-- **The token of an integer is its text with zeros behind the sign**, as many as the text leaves
of the width. -/
theorem intToken_eq (width : Option Nat) (i : Int64) :
    intToken width i = Integer.sign (i.toInt < 0) ++
      List.replicate (width.getD 0 - (Integer.text i).length) '0' ++
        Integer.digits i.toInt.natAbs := by
  rw [intToken, Integer.text, List.leftpad, List.length_append, List.append_assoc, Nat.sub_sub]

/-- **The token of an integer is as long as its width**, or as its text if that is longer. -/
theorem length_intToken (width : Option Nat) (i : Int64) :
    (intToken width i).length = max (width.getD 0) (Integer.text i).length := by
  rw [intToken, Integer.text, List.length_append, List.length_append,
    Integer.length_leftpad_digits]
  omega

/-- **A token that matches is as long as the width**, or longer: a minus takes the place of a
digit. -/
theorem le_length_of_matches_int {width : Option Nat} {token : List Char}
    (h : (Format.int width).pattern.Matches token) : width.getD 0 ≤ token.length := by
  cases width with
  | none => exact Nat.zero_le _
  | some n =>
    obtain ⟨sign, whole, rfl, -, hcases⟩ := matches_sizedInt_iff.1 h
    rw [Option.getD_some, List.length_append]
    rcases hcases with ⟨rfl, hlen⟩ | ⟨rfl, hlen⟩
    · rw [List.length_singleton]
      omega
    · rw [List.length_nil]
      omega

/-- **The token of an integer** is its text with zeros behind the sign, as long as the width or as
the text. The pattern of the format matches it, and no token that matches and denotes the integer is
shorter. A field of the format writes it and reads it back, and no other integer has the same
token. -/
theorem intToken_shortest (width : Option Nat) (i : Int64) :
    intToken width i = Integer.sign (i.toInt < 0) ++
      List.replicate (width.getD 0 - (Integer.text i).length) '0' ++
        Integer.digits i.toInt.natAbs ∧
    (intToken width i).length = max (width.getD 0) (Integer.text i).length ∧
    (Format.int width).pattern.Matches (intToken width i) ∧
    (∀ token, (Format.int width).pattern.Matches token → Integer.Denotes token i.toInt →
      (intToken width i).length ≤ token.length) ∧
    (∀ f : Field, f.format = .int width →
      f.write (.int i) = .ok (intToken width i) ∧ f.read (intToken width i) = .ok (.int i)) ∧
    ∀ j, intToken width j = intToken width i → j = i := by
  refine ⟨intToken_eq width i, length_intToken width i, matches_intToken width i, ?_, ?_, ?_⟩
  · intro token hmatches hdenotes
    rw [length_intToken]
    exact max_le (le_length_of_matches_int hmatches) (Integer.length_text_le_of_denotes hdenotes)
  · intro f hformat
    refine ⟨Field.write_int hformat i, Field.read_eq_ok_iff.2 ?_⟩
    rw [hformat, read, parse_intToken]
    rfl
  · intro j h
    have hparse := parse_intToken width j
    rw [h, parse_intToken] at hparse
    exact (Except.ok.inj hparse).symm

end TypedNames.Format
