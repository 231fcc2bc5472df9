import TypedNames.Proofs.Format.Widths

/-!
# The shapes of tokens

What the pattern of each format matches, said of the text itself: a sign, runs of digits, word
characters. From this it is read off which characters can stand in a token, and that a token of
any format but a text is free of underscores.

## Main results

* `Format.matches_fixed_iff`, `Format.matches_int_iff`, `Format.matches_sizedInt_iff`,
  `Format.matches_bool_iff`, `Format.matches_str_iff`, `Format.matches_sizedStr_iff` — the texts
  that the patterns match.
* `Format.underscore_notMem_of_matches` — no underscore stands in a token of a format that is not
  one of texts.
-/

set_option autoImplicit false

namespace TypedNames

/-- All characters of the text are decimal digits. -/
def IsDigits (text : List Char) : Prop :=
  ∀ c ∈ text, c.isDigit = true

/-- The text is a minus sign or nothing. -/
def IsSign (text : List Char) : Prop :=
  text = [] ∨ text = ['-']

/-- The sign of a numeral is a sign. -/
theorem isSign_sign (negative : Bool) : IsSign (Integer.sign negative) := by
  cases negative
  · exact .inl rfl
  · exact .inr rfl

/-- A digit is not the given character, if that one is no digit. -/
theorem ne_of_isDigit {c d : Char} (h : c.isDigit = true) (hd : d.isDigit = false) : c ≠ d := by
  rintro rfl
  rw [h] at hd
  exact Bool.noConfusion hd

/-- A run of digits has none of the other characters. -/
theorem IsDigits.notMem {text : List Char} (h : IsDigits text) {d : Char}
    (hd : d.isDigit = false) : d ∉ text :=
  fun mem => ne_of_isDigit (h d mem) hd rfl

/-- Of two equal texts, the runs of good characters up to the first other one are equal, and so is
everything else. -/
theorem append_cons_inj {good : Char → Prop} {u v x y : List Char} {c d : Char}
    (hu : ∀ a ∈ u, good a) (hv : ∀ a ∈ v, good a) (hc : ¬ good c) (hd : ¬ good d)
    (h : u ++ c :: x = v ++ d :: y) : u = v ∧ c = d ∧ x = y := by
  induction u generalizing v with
  | nil =>
    cases v with
    | nil =>
      obtain ⟨rfl, rfl⟩ := List.cons.inj h
      exact ⟨rfl, rfl, rfl⟩
    | cons b v =>
      obtain ⟨rfl, -⟩ := List.cons.inj h
      exact absurd (hv c List.mem_cons_self) hc
  | cons a u ih =>
    cases v with
    | nil =>
      obtain ⟨rfl, -⟩ := List.cons.inj h
      exact absurd (hu a List.mem_cons_self) hd
    | cons b v =>
      obtain ⟨rfl, htail⟩ := List.cons.inj h
      obtain ⟨rfl, hrest⟩ := ih (fun c hc => hu c (List.mem_cons_of_mem _ hc))
        (fun c hc => hv c (List.mem_cons_of_mem _ hc)) htail
      exact ⟨rfl, hrest⟩

/-- A text with digits after an optional sign starts with a minus exactly when the sign does. -/
theorem sign_eq_of_append_eq {sign sign' u v : List Char} (hsign : IsSign sign)
    (hsign' : IsSign sign') (hu : '-' ∉ u.head?) (hv : '-' ∉ v.head?)
    (h : sign ++ u = sign' ++ v) : sign = sign' := by
  rcases hsign with rfl | rfl <;> rcases hsign' with rfl | rfl
  · rfl
  · refine absurd ?_ hu
    rw [List.nil_append] at h
    rw [h]
    rfl
  · refine absurd ?_ hv
    rw [List.nil_append] at h
    rw [← h]
    rfl
  · rfl

/-- A sign has no character but the minus. -/
theorem IsSign.notMem {text : List Char} (h : IsSign text) {d : Char} (hd : d ≠ '-') :
    d ∉ text := by
  rcases h with rfl | rfl
  · exact List.not_mem_nil
  · simpa using hd

/-- One pattern and then another matches what splits into a text of each. -/
theorem Pattern.matches_append_iff {p q : Pattern} {s : List Char} :
    (p ++ q).Matches s ↔ ∃ u v, s = u ++ v ∧ p.Matches u ∧ q.Matches v :=
  Iff.rfl

/-- An optional minus matches the signs. -/
theorem Pattern.matches_optionalMinus_iff {s : List Char} :
    (Pattern.optional .minus).Matches s ↔ IsSign s := by
  simp only [Pattern.Matches, IsSign, CharClass.has, beq_iff_eq]
  constructor
  · rintro (rfl | ⟨c, rfl, rfl⟩)
    · exact .inl rfl
    · exact .inr rfl
  · rintro (rfl | rfl)
    · exact .inl rfl
    · exact .inr ⟨'-', rfl, rfl⟩

namespace Format

/-- The formats of numbers are the ones in fixed-point. -/
theorem kind_eq_float_iff {format : Format} :
    format.kind = .float ↔ ∃ i d, format = .fixed i d := by
  cases format <;> simp [kind]

/-- There is one format of truth values. -/
theorem kind_eq_bool_iff {format : Format} : format.kind = .bool ↔ format = .bool := by
  cases format <;> simp [kind]

/-- The formats of integers are those with and without a width. -/
theorem kind_eq_int_iff {format : Format} :
    format.kind = .int ↔ ∃ width, format = .int width := by
  cases format <;> simp [kind]

/-- The formats of texts are those with and without a width. -/
theorem kind_eq_str_iff {format : Format} :
    format.kind = .str ↔ ∃ padding, format = .str padding := by
  cases format <;> simp [kind]

/-- A fixed-point format matches a sign, enough digits, a point, and its number of digits. -/
theorem matches_fixed_iff {i d : Nat} {s : List Char} :
    (Format.fixed i d).pattern.Matches s ↔
      ∃ sign whole fraction, s = sign ++ (whole ++ '.' :: fraction) ∧ IsSign sign ∧
        (i ≤ whole.length ∧ IsDigits whole) ∧ (fraction.length = d ∧ IsDigits fraction) := by
  simp only [pattern, Pattern.matches_append_iff, Pattern.matches_optionalMinus_iff]
  constructor
  · rintro ⟨sign, _, rfl, hsign, whole, _, rfl, hwhole, _, fraction, rfl, rfl, hfraction⟩
    exact ⟨sign, whole, fraction, by simp, hsign, hwhole, hfraction⟩
  · rintro ⟨sign, whole, fraction, rfl, hsign, hwhole, hfraction⟩
    exact ⟨sign, whole ++ '.' :: fraction, by simp, hsign, whole, '.' :: fraction, rfl, hwhole,
      ['.'], fraction, rfl, rfl, hfraction⟩

/-- The format of truth values matches the two words. -/
theorem matches_bool_iff {s : List Char} :
    Format.bool.pattern.Matches s ↔
      s = ['T', 'r', 'u', 'e'] ∨ s = ['F', 'a', 'l', 's', 'e'] :=
  Iff.rfl

/-- A token of a truth value is made of word characters. -/
theorem isWord_of_matches_bool {s : List Char} (h : Format.bool.pattern.Matches s) :
    ∀ c ∈ s, Text.isWord c = true := by
  apply List.all_eq_true.1
  rcases matches_bool_iff.1 h with rfl | rfl <;> decide

/-- The integer format without a width matches a sign and at least one digit. -/
theorem matches_int_iff {s : List Char} :
    (Format.int none).pattern.Matches s ↔
      ∃ sign whole, s = sign ++ whole ∧ IsSign sign ∧ 1 ≤ whole.length ∧ IsDigits whole := by
  simp only [pattern, Pattern.matches_append_iff, Pattern.matches_optionalMinus_iff]
  exact Iff.rfl

/-- An integer format with a width matches a sign and enough digits, where the sign takes one
place. -/
theorem matches_sizedInt_iff {n : Nat} {s : List Char} :
    (Format.int (some n)).pattern.Matches s ↔
      ∃ sign whole, s = sign ++ whole ∧ IsDigits whole ∧
        (sign = ['-'] ∧ max (n - 1) 1 ≤ whole.length ∨ sign = [] ∧ n ≤ whole.length) := by
  constructor
  · rintro (⟨_, whole, rfl, ⟨c, rfl, hc⟩, hlen, hwhole⟩ | ⟨hlen, hwhole⟩)
    · have e : c = '-' := by simpa [CharClass.has] using hc
      subst e
      exact ⟨['-'], whole, rfl, hwhole, .inl ⟨rfl, hlen⟩⟩
    · exact ⟨[], s, rfl, hwhole, .inr ⟨rfl, hlen⟩⟩
  · rintro ⟨_, whole, rfl, hwhole, ⟨rfl, hlen⟩ | ⟨rfl, hlen⟩⟩
    · exact .inl ⟨['-'], whole, rfl, ⟨'-', rfl, rfl⟩, hlen, hwhole⟩
    · exact .inr ⟨hlen, hwhole⟩

/-- The text format without a width matches at least one word character. -/
theorem matches_str_iff {s : List Char} :
    (Format.str none).pattern.Matches s ↔ s ≠ [] ∧ ∀ c ∈ s, Text.isWord c = true := by
  rw [← List.length_pos_iff]
  exact Iff.rfl

/-- A text format with a width matches as many word characters. -/
theorem matches_sizedStr_iff {n : Nat} {side : Side} {s : List Char} :
    (Format.str (some (n, side))).pattern.Matches s ↔
      s.length = n ∧ ∀ c ∈ s, Text.isWord c = true :=
  Iff.rfl

/-- A token of an integer format is a sign and digits. -/
theorem exists_of_matches_int {width : Option Nat} {s : List Char}
    (h : (Format.int width).pattern.Matches s) :
    ∃ sign whole, s = sign ++ whole ∧ IsSign sign ∧ IsDigits whole := by
  cases width with
  | none =>
    obtain ⟨sign, whole, hs, hsign, -, hwhole⟩ := matches_int_iff.1 h
    exact ⟨sign, whole, hs, hsign, hwhole⟩
  | some n =>
    obtain ⟨sign, whole, hs, hwhole, ⟨hsign, -⟩ | ⟨hsign, -⟩⟩ := matches_sizedInt_iff.1 h
    · exact ⟨sign, whole, hs, .inr hsign, hwhole⟩
    · exact ⟨sign, whole, hs, .inl hsign, hwhole⟩

/-- A token of an integer format in range has a digit. -/
theorem exists_numeral_of_matches_int {width : Option Nat} (range : (Format.int width).InRange)
    {s : List Char} (h : (Format.int width).pattern.Matches s) :
    ∃ sign whole, s = sign ++ whole ∧ IsSign sign ∧ whole ≠ [] ∧ IsDigits whole := by
  cases width with
  | none =>
    obtain ⟨sign, whole, hs, hsign, hlen, hwhole⟩ := matches_int_iff.1 h
    exact ⟨sign, whole, hs, hsign, List.length_pos_iff.1 hlen, hwhole⟩
  | some n =>
    obtain ⟨sign, whole, hs, hwhole, hcases⟩ := matches_sizedInt_iff.1 h
    have hone : 1 ≤ n := range.1
    have hlen : 0 < whole.length := by omega
    have hsign : IsSign sign := by
      rcases hcases with ⟨hsign, -⟩ | ⟨hsign, -⟩
      · exact .inr hsign
      · exact .inl hsign
    exact ⟨sign, whole, hs, hsign, List.length_pos_iff.1 hlen, hwhole⟩

/-- No underscore stands in a token of a format that is not one of texts. -/
theorem underscore_notMem_of_matches {format : Format} {s : List Char} (hkind : format.kind ≠ .str)
    (h : format.pattern.Matches s) : '_' ∉ s := by
  cases format with
  | fixed i d =>
    obtain ⟨sign, whole, fraction, rfl, hsign, ⟨-, hwhole⟩, -, hfraction⟩ := matches_fixed_iff.1 h
    have h₁ : '_' ∉ sign := hsign.notMem (by decide)
    have h₂ : '_' ∉ whole := hwhole.notMem (by decide)
    have h₃ : '_' ∉ fraction := hfraction.notMem (by decide)
    simp [h₁, h₂, h₃]
  | bool =>
    rcases matches_bool_iff.1 h with rfl | rfl <;> decide
  | int width =>
    obtain ⟨sign, whole, rfl, hsign, hwhole⟩ := exists_of_matches_int h
    have h₁ : '_' ∉ sign := hsign.notMem (by decide)
    have h₂ : '_' ∉ whole := hwhole.notMem (by decide)
    simp [h₁, h₂]
  | str padding => exact absurd rfl hkind

end Format

end TypedNames
