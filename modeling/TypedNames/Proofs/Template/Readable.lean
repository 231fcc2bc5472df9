import TypedNames.Proofs.Template.Preferred
import TypedNames.Proofs.Template.RoundTrip
import TypedNames.Proofs.Template.Separator

/-!
# Which written names match

Writing never cuts a text and never asks whether it is a word, and the pattern of a text does both.
So a written token matches the pattern of its field exactly when the value fits, and the name of a
record that fits matches the template. If no field is one of texts without a width, no other name
does: tokens that have grown cannot be taken apart in another way.

## Main results

* `Template.eq_of_body_eq` — tokens that are at least as long as those of a split are the split.
* `Template.matchesName_iff_fits` — without texts without a width, a name matches exactly when the
  record fits.
* `Template.not_isHard_of_matchesName` — in any case a name that matches has no other characters in
  its texts than word characters and minus signs.
* `Template.written_matches_iff` — which written tokens and names match.
-/

set_option autoImplicit false

namespace TypedNames

namespace Template

/-! ## Tokens that have grown -/

/-- A row of tokens cannot be shifted to the right against a row of shorter ones, or of ones without
underscores.

**Proof sketch.** By induction on the fields. The first token of the shifted row ends no further to
the right than that of the other row, for else the rest of the rows would be shifted too. So it is
not longer, and if it begins further to the right, then the underscore in front of it stands in the
token of the other row. -/
theorem eq_nil_of_shifted {fields : List Field} {us ts : List (List Char)} {w : List Char}
    (grown : List.Forall₂ (fun u t => t.length ≤ u.length ∨ '_' ∉ t) us ts)
    (hlen : us.length = fields.length)
    (h : w ++ body ['_'] fields us = body ['_'] fields ts) : w = [] := by
  induction fields generalizing us ts w with
  | nil => simpa [body] using h
  | cons f fs ih =>
    cases grown with
    | nil => simp at hlen
    | @cons u t us ts hut hrest =>
      have hplace : (w ++ ('_' :: f.name.toList) ++ '_' :: u) ++ body ['_'] fs us =
          ('_' :: f.name.toList ++ '_' :: t) ++ body ['_'] fs ts := by
        simpa [body, segment] using h
      obtain ⟨a, hend⟩ : ∃ a, (w ++ ('_' :: f.name.toList)) ++ '_' :: (u ++ a) =
          '_' :: f.name.toList ++ '_' :: t := by
        rcases List.append_eq_append_iff.1 hplace with ⟨a, ha, -⟩ | ⟨a, ha, hshift⟩
        · exact ⟨a, by simpa using ha.symm⟩
        · have hnil : a = [] := ih hrest (Nat.succ.inj hlen) hshift.symm
          exact ⟨[], by simpa [hnil] using ha⟩
      have hlength := congrArg List.length hend
      simp only [List.length_append, List.length_cons] at hlength
      apply List.length_eq_zero_iff.1
      rcases hut with hle | hfree
      · omega
      · rcases eq_or_continuesBefore hend with e | ⟨v, e | e⟩
        · have hsame := congrArg List.length e
          rw [List.length_append] at hsame
          omega
        · have hlonger := congrArg List.length e
          simp only [List.length_append, List.length_cons] at hlonger
          omega
        · exact absurd (by simp [e]) hfree

/-- **Two rows with one text are the same** if the tokens of the one are at least as long as those
of the other or those have no underscores. -/
theorem eq_of_body_eq {delimiter : List Char} {fields : List Field} {us ts : List (List Char)}
    (grown : List.Forall₂ (fun u t => t.length ≤ u.length ∨ '_' ∉ t) us ts)
    (hlen : us.length = fields.length)
    (h : body delimiter fields us = body delimiter fields ts) : us = ts := by
  induction fields generalizing delimiter us ts with
  | nil =>
    rw [List.length_nil, List.length_eq_zero_iff] at hlen
    subst hlen
    exact (List.forall₂_nil_left_iff.1 grown).symm
  | cons f fs ih =>
    cases grown with
    | nil => simp at hlen
    | @cons u t us ts hut hrest =>
      have hplace : u ++ body ['_'] fs us = t ++ body ['_'] fs ts := by
        simpa [body, segment] using h
      have hlen' : us.length = fs.length := Nat.succ.inj hlen
      have hsame : u = t ∧ body ['_'] fs us = body ['_'] fs ts := by
        rcases List.append_eq_append_iff.1 hplace with ⟨a, rfl, ha⟩ | ⟨a, rfl, ha⟩
        · have hnil : a = [] := by
            rcases hut with hle | hfree
            · rw [List.length_append] at hle
              exact List.length_eq_zero_iff.1 (by omega)
            · cases a with
              | nil => rfl
              | cons c a =>
                have hc : c = '_' := head?_body fs us c (by simp [ha])
                exact absurd (by simp [hc]) hfree
          subst hnil
          exact ⟨by simp, ha⟩
        · have hnil : a = [] := eq_nil_of_shifted hrest hlen' ha.symm
          subst hnil
          exact ⟨by simp, ha.symm⟩
      rw [hsame.1, ih hrest hlen' hsame.2]

end Template

/-- A written token is at least as long as any that the pattern matches, or these have no
underscores, unless the format is one of texts without a width. -/
theorem Format.length_le_or_notMem {format : Format} (ne : format ≠ .str none) {v : Value}
    {u t : List Char} (hu : format.Writes v u) (ht : format.pattern.Matches t) :
    t.length ≤ u.length ∨ '_' ∉ t := by
  by_cases hkind : format.kind = .str
  · obtain ⟨padding, rfl⟩ := kind_eq_str_iff.1 hkind
    cases hu with
    | str _ s =>
      rcases padding with _ | ⟨n, side⟩
      · exact absurd rfl ne
      · left
        rw [(matches_sizedStr_iff.1 ht).1, length_strToken]
        omega
  · exact .inr (underscore_notMem_of_matches hkind ht)

namespace Template

variable {t : Template} {r : Record}

/-- The written tokens and the split of a name that matches have one text. -/
theorem exists_split_of_matchesName {tokens : List (List Char)}
    (h : t.matchesName (String.ofList (t.spell tokens)) = true) :
    ∃ others, Accepted t.fields others ∧ body [] t.fields tokens = body [] t.fields others := by
  obtain ⟨others, hothers⟩ := isSome_tokens?_iff.1 h
  obtain ⟨haccepted, hspell⟩ := isSplit_iff.1 hothers
  rw [String.toList_ofList] at hspell
  exact ⟨others, haccepted, spell_inj.1 hspell.symm⟩

/-- **A name matches exactly when the record fits**, if no field is one of texts without a width.

**Proof sketch.** The tokens of the split are not longer than the written ones, or have no
underscores, so they are the written ones. -/
theorem matchesName_iff_fits (sized : ∀ f ∈ t.fields, f.isBare = false) {name : String}
    (h : t.write r = .ok name) : t.matchesName name = true ↔ t.Fits r := by
  obtain ⟨-, us, hus, rfl⟩ := write_eq_ok_iff.1 h
  constructor
  · intro hmatches
    obtain ⟨ts, hts, hbody⟩ := exists_split_of_matchesName hmatches
    have hgrown : List.Forall₂ (fun u t => t.length ≤ u.length ∨ '_' ∉ t) us ts := by
      apply forall₂_of_forall₂ hus hts
      rintro f hf u s ⟨v, -, hwrite⟩ hs
      have hne : f.format ≠ .str none := by simpa [Field.isBare] using sized f hf
      exact Format.length_le_or_notMem hne (Field.write_eq_ok_iff.1 hwrite) hs
    rw [← accepted_iff_fits hus, eq_of_body_eq hgrown hus.length_eq.symm hbody]
    exact hts
  · intro hfits
    exact isSome_tokens?_iff.2 ⟨us, isSplit_of_tokenizes hus hfits⟩

end Template

/-! ## Hard characters -/

/-- A hard character stands in a fixed-point token only as its point. -/
theorem Format.count_of_matches_fixed {i d : Nat} {c : Char} (hard : IsHard c) {s : List Char}
    (h : (Format.fixed i d).pattern.Matches s) : s.count c = if c = '.' then 1 else 0 := by
  obtain ⟨sign, whole, fraction, rfl, hsign, ⟨-, hwhole⟩, -, hfraction⟩ := matches_fixed_iff.1 h
  have hfront : (sign ++ whole).count c = 0 :=
    List.count_eq_zero.2 fun hc => not_isHard_of_mem_numeral hsign hwhole c hc hard
  have hback : fraction.count c = 0 := by
    apply List.count_eq_zero.2
    intro hc
    exact not_isHard_of_isWord (Text.isWord_of_isDigit (hfraction c hc)) hard
  rw [← List.append_assoc, List.count_append, hfront, List.count_cons, hback]
  by_cases e : c = '.'
  · simp [e]
  · simp [e, Ne.symm e]

/-- A hard character stands in a written token at least as often as in any that the pattern
matches. -/
theorem Format.count_le_of_writes {format : Format} (range : format.InRange) {c : Char}
    (hard : IsHard c) {v : Value} {u t : List Char} (hu : format.Writes v u)
    (ht : format.pattern.Matches t) : t.count c ≤ u.count c := by
  by_cases hkind : format.kind = .float
  · obtain ⟨i, d, rfl⟩ := kind_eq_float_iff.1 hkind
    have hmatches : (Format.fixed i d).pattern.Matches u := (matches_iff_fits range hu).2 rfl
    rw [count_of_matches_fixed hard ht, count_of_matches_fixed hard hmatches]
  · have hfree : t.count c = 0 :=
      List.count_eq_zero.2 fun hc => not_isHard_of_matches hkind ht c hc hard
    omega

namespace Template

variable {t : Template} {r : Record}

/-- A character stands in a row as often as in its fixed parts and its tokens. -/
theorem count_body_cons {c : Char} {delimiter : List Char} {f : Field} {fields : List Field}
    {token : List Char} {tokens : List (List Char)} :
    (body delimiter (f :: fields) (token :: tokens)).count c =
      (delimiter ++ f.name.toList ++ ['_']).count c + token.count c +
        (body ['_'] fields tokens).count c := by
  simp only [body, segment, List.count_append, List.count_cons, List.count_nil]
  omega

/-- A row in whose tokens a character stands at least as often shows it at least as often. -/
theorem count_body_le {c : Char} {delimiter : List Char} {fields : List Field}
    {us ts : List (List Char)} (h : List.Forall₂ (fun u t => t.count c ≤ u.count c) us ts) :
    (body delimiter fields ts).count c ≤ (body delimiter fields us).count c := by
  induction fields generalizing delimiter us ts with
  | nil => simp [body]
  | cons f fs ih =>
    cases h with
    | nil => exact Nat.le_refl _
    | @cons u t us ts hut hrest =>
      have hle : (body ['_'] fs ts).count c ≤ (body ['_'] fs us).count c := ih hrest
      rw [count_body_cons, count_body_cons]
      omega

/-- If it shows it just as often, so does each token. -/
theorem count_eq_of_count_body_eq {c : Char} {delimiter : List Char} {fields : List Field}
    {us ts : List (List Char)} (h : List.Forall₂ (fun u t => t.count c ≤ u.count c) us ts)
    (hlen : us.length = fields.length)
    (eq : (body delimiter fields us).count c = (body delimiter fields ts).count c) :
    List.Forall₂ (fun u t => u.count c = t.count c) us ts := by
  induction fields generalizing delimiter us ts with
  | nil =>
    rw [List.length_nil, List.length_eq_zero_iff] at hlen
    subst hlen
    cases h
    exact .nil
  | cons f fs ih =>
    cases h with
    | nil => exact .nil
    | @cons u t us ts hut hrest =>
      have hle : (body ['_'] fs ts).count c ≤ (body ['_'] fs us).count c := count_body_le hrest
      rw [count_body_cons, count_body_cons] at eq
      have hrow : (body ['_'] fs us).count c = (body ['_'] fs ts).count c := by omega
      exact .cons (by omega) (ih hrest (Nat.succ.inj hlen) hrow)

/-- A text is written only in a format of texts. -/
theorem exists_of_write_str {f : Field} {s : String} {token : List Char}
    (h : f.write (.str s) = .ok token) :
    ∃ padding, f.format = .str padding ∧ token = Format.strToken padding s.toList := by
  have hwrites := Field.write_eq_ok_iff.1 h
  generalize f.format = format at hwrites ⊢
  cases hwrites with
  | str padding => exact ⟨padding, rfl, rfl⟩
  | fixed number => simp [Value.number?] at number

/-- The characters of a text stand in its token. -/
theorem subset_strToken (padding : Option (Nat × Side)) (s : List Char) :
    s ⊆ Format.strToken padding s := by
  rcases padding with _ | ⟨n, side⟩
  · exact List.Subset.refl s
  · exact fun c hc => Format.mem_strToken_iff.2 (.inl hc)

/-- **No hard character stands in a text of a record whose name matches.**

**Proof sketch.** Such a character stands in a written token at least as often as in the token of
the split, so just as often in each, and there is none in a token that the pattern of a text
matches. -/
theorem not_isHard_of_matchesName {name : String} (h : t.write r = .ok name)
    (hmatches : t.matchesName name = true) :
    ∀ f ∈ t.fields, ∀ s, r.get? f.name = some (.str s) → ∀ c ∈ s.toList, ¬ IsHard c := by
  obtain ⟨-, us, hus, rfl⟩ := write_eq_ok_iff.1 h
  obtain ⟨ts, hts, hbody⟩ := exists_split_of_matchesName hmatches
  intro f hf s hs c hc hard
  have hle : List.Forall₂ (fun u t => t.count c ≤ u.count c) us ts := by
    apply forall₂_of_forall₂ hus hts
    rintro g - u x ⟨v, -, hwrite⟩ hx
    exact Format.count_le_of_writes g.inRange hard (Field.write_eq_ok_iff.1 hwrite) hx
  have heq := count_eq_of_count_body_eq hle hus.length_eq.symm (congrArg (List.count c) hbody)
  have hsplit : List.Forall₂ (fun g u => ∃ x, g.pattern.Matches x ∧ u.count c = x.count c)
      t.fields us :=
    forall₂_of_forall₂ hts.flip heq.flip fun x _ g u hx hu => ⟨x, hx, hu⟩
  have hfree : List.Forall₂ (fun g _ => ∀ s, r.get? g.name = some (.str s) → c ∉ s.toList)
      t.fields us := by
    refine hus.mp ?_ hsplit
    rintro g u ⟨v, hv, hwrite⟩ ⟨x, hx, hcount⟩ s hs hc
    obtain rfl := Option.some.inj (hv.symm.trans hs)
    obtain ⟨padding, hformat, rfl⟩ := exists_of_write_str hwrite
    rw [Field.pattern, hformat] at hx
    have hkind : (Format.str padding).kind ≠ .float := by simp [Format.kind]
    have hfree : x.count c = 0 :=
      List.count_eq_zero.2 fun hc => Format.not_isHard_of_matches hkind hx c hc hard
    rw [hfree] at hcount
    exact List.count_eq_zero.1 hcount (subset_strToken padding s.toList hc)
  exact forall_mem_of_forall₂ hfree f hf s hs hc

/-- **Which written names match.** A written token matches the pattern of its field exactly when the
value fits, and the written tokens are a split of their name exactly when the record fits; then the
name matches and reading never answers that it does not. A name that matches has no hard characters
in its texts, and if no field is one of texts without a width, it is the name of a record that
fits. -/
theorem written_matches_iff (t : Template) :
    (∀ (f : Field) v token, f.write v = .ok token →
      (f.pattern.Matches token ↔ f.format.fits v = true)) ∧
    (∀ r tokens, t.Tokenizes r tokens → (t.IsSplit (t.spell tokens) tokens ↔ t.Fits r)) ∧
    (∀ r name, t.write r = .ok name → t.Fits r →
      t.matchesName name = true ∧ ∀ text pattern, t.read name ≠ .error (.noMatch text pattern)) ∧
    (∀ r name, t.write r = .ok name → t.matchesName name = true →
      ∀ f ∈ t.fields, ∀ s, r.get? f.name = some (.str s) → ∀ c ∈ s.toList, ¬ IsHard c) ∧
    ((∀ f ∈ t.fields, f.isBare = false) →
      ∀ r name, t.write r = .ok name → (t.matchesName name = true ↔ t.Fits r)) := by
  refine ⟨?_, ?_, ?_, ?_, ?_⟩
  · intro f v token h
    exact Format.matches_iff_fits f.inRange (Field.write_eq_ok_iff.1 h)
  · intro r tokens h
    rw [isSplit_iff, accepted_iff_fits h]
    exact and_iff_left rfl
  · intro r name h fits
    obtain ⟨-, tokens, htokens, rfl⟩ := write_eq_ok_iff.1 h
    have hsplit := isSplit_of_tokenizes htokens fits
    refine ⟨isSome_tokens?_iff.2 ⟨tokens, hsplit⟩, ?_⟩
    intro text pattern hread
    exact (read_noMatch_iff.1 hread).2.2 ⟨tokens, hsplit⟩
  · intro r name h hmatches
    exact not_isHard_of_matchesName h hmatches
  · intro sized r name h
    exact matchesName_iff_fits sized h

end Template

end TypedNames
