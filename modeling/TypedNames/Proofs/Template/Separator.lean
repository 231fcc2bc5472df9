import TypedNames.Proofs.Template.Overlap

/-!
# What separates fields

A character that is neither a word character nor a minus stands in no token except, as the point,
in one of a fixed-point number. Where a field shows such a character, in its name or as its point,
it shows it at the same place whatever the tokens are, and two rows of tokens with one text are
split there into two shorter pairs of rows. So the first difference of two rows and the next one
that is needed for it have no such field between them.

## Main definitions

* `IsHard` — a character that is neither a word character nor a minus.
* `Field.separates` — a field that shows such a character whatever its token is.

## Main results

* `Twin.cut_of_separates` — two rows with one text have one text in front of a separating field.
* `Twin.exists_unseparated_pair` — two different rows with one text differ at two fields of texts
  without a width and with no separating field between them.
-/

set_option autoImplicit false

namespace TypedNames

/-- The character is neither a word character nor a minus. -/
def IsHard (c : Char) : Prop :=
  Text.isWord c = false ∧ c ≠ '-'

instance (c : Char) : Decidable (IsHard c) :=
  inferInstanceAs (Decidable (_ ∧ _))

/-- The field shows a hard character whatever its token is: it is one of numbers in fixed-point,
which show a point, or its name has such a character. -/
def Field.separates (f : Field) : Bool :=
  decide (f.format.kind = .float) || f.name.toList.any IsHard

/-- A word character is not hard. -/
theorem not_isHard_of_isWord {c : Char} (h : Text.isWord c = true) : ¬ IsHard c := by
  rintro ⟨hword, -⟩
  rw [h] at hword
  exact Bool.noConfusion hword

/-- An underscore is not hard. -/
theorem not_isHard_underscore : ¬ IsHard '_' :=
  not_isHard_of_isWord Text.isWord_underscore

/-- Signs and digits are not hard. -/
theorem not_isHard_of_mem_numeral {sign digits : List Char} (hsign : IsSign sign)
    (hdigits : IsDigits digits) : ∀ c ∈ sign ++ digits, ¬ IsHard c := by
  intro c hc
  rcases List.mem_append.1 hc with hc | hc
  · rcases hsign with rfl | rfl
    · exact absurd hc List.not_mem_nil
    · rw [List.mem_singleton] at hc
      rw [hc]
      exact fun h => h.2 rfl
  · exact not_isHard_of_isWord (Text.isWord_of_isDigit (hdigits c hc))

/-- No hard character stands in a token of a format that is not one of numbers in fixed-point. -/
theorem Format.not_isHard_of_matches {format : Format} {token : List Char}
    (hkind : format.kind ≠ .float) (h : format.pattern.Matches token) :
    ∀ c ∈ token, ¬ IsHard c := by
  cases format with
  | fixed i d => exact absurd rfl hkind
  | bool => exact fun c hc => not_isHard_of_isWord (isWord_of_matches_bool h c hc)
  | int width =>
    obtain ⟨sign, whole, rfl, hsign, hwhole⟩ := exists_of_matches_int h
    exact not_isHard_of_mem_numeral hsign hwhole
  | str padding =>
    have hword : ∀ c ∈ token, Text.isWord c = true := by
      rcases padding with _ | ⟨n, side⟩
      · exact (matches_str_iff.1 h).2
      · exact (matches_sizedStr_iff.1 h).2
    exact fun c hc => not_isHard_of_isWord (hword c hc)

/-- What follows the last of a character in two equal texts is equal, and so is what stands in
front of it. -/
theorem append_cons_inj_of_notMem {c : Char} {u v x y : List Char} (hx : c ∉ x) (hy : c ∉ y)
    (h : u ++ c :: x = v ++ c :: y) : u = v ∧ x = y := by
  have hreverse : x.reverse ++ c :: u.reverse = y.reverse ++ c :: v.reverse := by
    simpa using congrArg List.reverse h
  have hgood {z : List Char} (hz : c ∉ z) : ∀ a ∈ z.reverse, a ≠ c := by
    intro a ha e
    exact hz (e ▸ List.mem_reverse.1 ha)
  have hself : ¬ c ≠ c := not_not.2 rfl
  obtain ⟨hxy, -, huv⟩ := append_cons_inj (hgood hx) (hgood hy) hself hself hreverse
  exact ⟨List.reverse_injective huv, List.reverse_injective hxy⟩

namespace Twin

/-- No hard character stands in a row without separating fields. -/
theorem not_isHard_of_mem_row {token : Twin → List Char} {twins : List Twin}
    (soft : ∀ t ∈ twins, t.field.separates = false)
    (accepted : ∀ t ∈ twins, t.field.pattern.Matches (token t)) :
    ∀ c ∈ row token ['_'] twins, ¬ IsHard c := by
  induction twins with
  | nil =>
    intro c hc
    simp [row, Template.body] at hc
  | cons t rest ih =>
    have hsoft := soft t List.mem_cons_self
    simp only [Field.separates, Bool.or_eq_false_iff, decide_eq_false_iff_not, List.any_eq_false,
      decide_eq_true_eq] at hsoft
    obtain ⟨hkind, hname⟩ := hsoft
    have htoken := Format.not_isHard_of_matches hkind (accepted t List.mem_cons_self)
    have hrest := ih (fun s hs => soft s (List.mem_cons_of_mem _ hs))
      (fun s hs => accepted s (List.mem_cons_of_mem _ hs))
    intro c hc
    rw [row_cons] at hc
    simp only [List.mem_append, List.mem_cons, List.not_mem_nil, or_false] at hc
    rcases hc with rfl | hc | rfl | hc | hc
    · exact not_isHard_underscore
    · exact hname c hc
    · exact not_isHard_underscore
    · exact htoken c hc
    · exact hrest c hc

/-- **Two rows with one text have one text in front of a separating field**, if no field before it
separates and the rows start with words.

**Proof sketch.** The first hard character of the text is the first one of the name of the
separating field or else its point, and it is at the same place in both rows. What stands between
the row and this character is the same for both, up to the digits in front of a point, and these
begin behind the last underscore. -/
theorem cut_of_separates {x y : List Char} {before after : List Twin} {t : Twin}
    (hx : ∀ c ∈ x, ¬ IsHard c) (hy : ∀ c ∈ y, ¬ IsHard c)
    (soft : ∀ s ∈ before, s.field.separates = false) (sep : t.field.separates = true)
    (h : x ++ row left ['_'] (before ++ t :: after) =
      y ++ row right ['_'] (before ++ t :: after)) :
    x ++ row left ['_'] before = y ++ row right ['_'] before := by
  have hleft := not_isHard_of_mem_row soft fun s _ => s.matches_left
  have hright := not_isHard_of_mem_row soft fun s _ => s.matches_right
  rw [row_append, row_append, row_cons, row_cons, Template.delimiterBehind_underscore] at h
  -- everything in front of the first hard character: `middle` is what the field adds to it
  have hsoft {z text middle : List Char} (hz : ∀ c ∈ z, ¬ IsHard c)
      (htext : ∀ c ∈ text, ¬ IsHard c) (hmiddle : ∀ c ∈ middle, ¬ IsHard c) :
      ∀ c ∈ z ++ text ++ '_' :: middle, ¬ IsHard c := by
    intro c hc
    simp only [List.mem_append, List.mem_cons] at hc
    rcases hc with (hc | hc) | rfl | hc
    · exact hz c hc
    · exact htext c hc
    · exact not_isHard_underscore
    · exact hmiddle c hc
  by_cases hname : ∃ c ∈ t.field.name.toList, IsHard c
  · obtain ⟨name, c, name', hsplit, hc, hsoftName⟩ := exists_first hname
    have hplace : (x ++ row left ['_'] before ++ '_' :: name) ++
          c :: (name' ++ '_' :: (t.left ++ row left ['_'] after)) =
        (y ++ row right ['_'] before ++ '_' :: name) ++
          c :: (name' ++ '_' :: (t.right ++ row right ['_'] after)) := by
      rw [hsplit] at h
      simpa using h
    obtain ⟨hcut, -, -⟩ := append_cons_inj (hsoft hx hleft hsoftName)
      (hsoft hy hright hsoftName) (not_not.2 hc) (not_not.2 hc) hplace
    exact List.append_cancel_right hcut
  · have hname' : ∀ c ∈ t.field.name.toList, ¬ IsHard c := fun c hc hhard => hname ⟨c, hc, hhard⟩
    have hkind : t.field.format.kind = .float := by
      have hany : t.field.name.toList.any IsHard = false := by simpa using hname'
      simpa [Field.separates, hany] using sep
    obtain ⟨i, d, hformat⟩ := Format.kind_eq_float_iff.1 hkind
    have hmatches := t.matches_left
    have hmatches' := t.matches_right
    rw [Field.pattern, hformat] at hmatches hmatches'
    obtain ⟨sign, whole, fraction, hl, hsign, ⟨-, hwhole⟩, -⟩ :=
      Format.matches_fixed_iff.1 hmatches
    obtain ⟨sign', whole', fraction', hr, hsign', ⟨-, hwhole'⟩, -⟩ :=
      Format.matches_fixed_iff.1 hmatches'
    have hmiddle {s w : List Char} (hs : IsSign s) (hw : IsDigits w) :
        ∀ c ∈ t.field.name.toList ++ '_' :: (s ++ w), ¬ IsHard c := by
      intro c hc
      simp only [List.mem_append, List.mem_cons] at hc
      rcases hc with hc | rfl | hc
      · exact hname' c hc
      · exact not_isHard_underscore
      · exact not_isHard_of_mem_numeral hs hw c (List.mem_append.2 hc)
    have hpoint : ¬ ¬ IsHard '.' := by decide
    have hplace : (x ++ row left ['_'] before ++
            '_' :: (t.field.name.toList ++ '_' :: (sign ++ whole))) ++
          '.' :: (fraction ++ row left ['_'] after) =
        (y ++ row right ['_'] before ++
            '_' :: (t.field.name.toList ++ '_' :: (sign' ++ whole'))) ++
          '.' :: (fraction' ++ row right ['_'] after) := by
      rw [hl, hr] at h
      simpa using h
    obtain ⟨hcut, -, -⟩ := append_cons_inj (hsoft hx hleft (hmiddle hsign hwhole))
      (hsoft hy hright (hmiddle hsign' hwhole')) hpoint hpoint hplace
    have hnumeral {s w : List Char} (hs : IsSign s) (hw : IsDigits w) : '_' ∉ s ++ w := by
      rw [List.mem_append, not_or]
      exact ⟨hs.notMem (by decide), hw.notMem (by decide)⟩
    have hlast : (x ++ row left ['_'] before ++ '_' :: t.field.name.toList) ++
          '_' :: (sign ++ whole) =
        (y ++ row right ['_'] before ++ '_' :: t.field.name.toList) ++
          '_' :: (sign' ++ whole') := by
      simpa using hcut
    obtain ⟨hfront, -⟩ := append_cons_inj_of_notMem (hnumeral hsign hwhole)
      (hnumeral hsign' hwhole') hlast
    exact List.append_cancel_right hfront

/-- **Two different rows with one text differ at two fields of texts without a width that nothing
separates**: in one token of the first field goes on behind the other one, and in the second field
in front of it.

**Proof sketch.** Take the first difference and cut the rows at the first separating field behind
it, if there is one. What is left has one text and starts with different tokens, so it has a last
difference behind them. -/
theorem exists_unseparated_pair {delimiter : List Char} {twins : List Twin}
    (h : row left delimiter twins = row right delimiter twins)
    (ne : ∃ t ∈ twins, t.left ≠ t.right) :
    ∃ before p between q behind, twins = before ++ p :: (between ++ q :: behind) ∧
      ContinuesBehind p.left p.right ∧ ContinuesBefore q.left q.right ∧
      ∀ t ∈ between ++ [q], t.field.separates = false := by
  obtain ⟨before, p, after, rfl, hp, hbehind, hrest⟩ := exists_first_difference h ne
  obtain ⟨near, far, rfl, hnear, hsoft⟩ : ∃ near far, after = near ++ far ∧
      p.left ++ row left ['_'] near = p.right ++ row right ['_'] near ∧
      ∀ t ∈ near, t.field.separates = false := by
    by_cases hsep : ∃ t ∈ after, t.field.separates = true
    · obtain ⟨near, t, far, rfl, ht, hnear⟩ := exists_first hsep
      have hsoft : ∀ s ∈ near, s.field.separates = false :=
        fun s hs => Bool.eq_false_iff.2 (hnear s hs)
      have hkind : p.field.format.kind ≠ .float := by
        rw [Field.isBare_iff.1 (isBare_of_continuesBehind hbehind)]
        decide
      exact ⟨near, t :: far, rfl,
        cut_of_separates (Format.not_isHard_of_matches hkind p.matches_left)
          (Format.not_isHard_of_matches hkind p.matches_right) hsoft ht hrest, hsoft⟩
    · refine ⟨after, [], (List.append_nil after).symm, hrest, ?_⟩
      intro t ht
      exact Bool.eq_false_iff.2 fun hsep' => hsep ⟨t, ht, hsep'⟩
  obtain ⟨between, q, behind, rfl, -, hbefore⟩ := exists_last_difference hp hnear
  refine ⟨before, p, between, q, behind ++ far, by simp, hbehind, hbefore, ?_⟩
  intro t ht
  apply hsoft t
  rcases List.mem_append.1 ht with ht | ht
  · exact List.mem_append_left _ ht
  · rw [List.mem_singleton] at ht
    rw [ht]
    simp

end Twin

end TypedNames
