import TypedNames.Proofs.Pattern.Greedy
import TypedNames.Proofs.Template.Conversion

/-!
# The preferred split

A name can split in several ways, because a token may contain the text that ends it. Among its
splits one is preferred: the first token is as long as possible, then the second one among the
splits with this first token, and so on. This module shows that reading uses the preferred split
and that it finds one whenever there is a split at all.

## Main definitions

* `Template.IsPreferred` — the split whose token lengths come last in lexicographic order.

## Main results

* `Template.isPreferred_of_tokens?` — the tokens that are read are the preferred split.
* `Template.read_iff_preferred` — which names match, and what is read from them.
-/

set_option autoImplicit false

namespace TypedNames

namespace Template

/-- The preferred split of a text: in the lexicographic order of the lengths of tokens it comes
after all others. -/
structure IsPreferred (t : Template) (text : List Char) (tokens : List (List Char)) : Prop
    extends t.IsSplit text tokens where
  greatest : ∀ other, t.IsSplit text other → other ≠ tokens →
    other.map List.length < tokens.map List.length

/-- There is at most one preferred split. -/
theorem IsPreferred.unique {t : Template} {text : List Char} {tokens other : List (List Char)}
    (h : t.IsPreferred text tokens) (h' : t.IsPreferred text other) : tokens = other := by
  by_cases e : tokens = other
  · exact e
  · have hlt := h'.greatest tokens h.toIsSplit e
    have hgt := h.greatest other h'.toIsSplit (Ne.symm e)
    exact absurd hlt (List.lt_asymm hgt)

/-- Two texts that differ in their first parts differ there or behind them. -/
theorem lengths_lt_of_le {u v r s : List Char} {us vs : List (List Char)}
    (h : u ++ r = v ++ s) (le : u.length ≤ v.length)
    (lt : u = v → us.map List.length < vs.map List.length) :
    (u :: us).map List.length < (v :: vs).map List.length := by
  rw [List.map_cons, List.map_cons, List.cons_lt_cons_iff]
  rcases Nat.lt_or_eq_of_le le with hlt | heq
  · exact .inl hlt
  · exact .inr ⟨heq, lt (List.append_inj_left h heq)⟩

/-- **The outcome of a row of fields gives the preferred tokens for them.**

**Proof sketch.** By induction on the fields. The first token is the longest after which the rest
of the row succeeds, and any other choice of tokens shows that the rest succeeds after its own
first token too. If both first tokens are the same, what is left is a choice of tokens for the
rest of the row, at the same place. -/
theorem exists_preferred_of_fieldsOutcome
    {after : List Char → Option (List Char × List (List Char))} {delimiter text : List Char}
    {fields : List Field} {found : List Char × List (List Char)}
    (h : fieldsOutcome after delimiter fields text = some found) :
    ∃ tokens rest inner, found.2 = tokens ++ inner.2 ∧ after rest = some inner ∧
      text = body delimiter fields tokens ++ rest ∧ Accepted fields tokens ∧
      ∀ other rest', Accepted fields other → text = body delimiter fields other ++ rest' →
        (after rest').isSome = true → other ≠ tokens →
        other.map List.length < tokens.map List.length := by
  induction fields generalizing delimiter text found with
  | nil =>
    refine ⟨[], text, found, rfl, h, rfl, .nil, ?_⟩
    intro other rest' hother _ _ hne
    exact absurd (List.forall₂_nil_left_iff.1 hother) hne
  | cons f fs ih =>
    obtain ⟨u, r, inner, hu, hr, rfl⟩ := exists_of_through h
    obtain ⟨rfl, rfl⟩ := Pattern.mem_waysLiteral.1 hu
    obtain ⟨outer, ho, rfl⟩ := Option.map_eq_some_iff.1 hr
    obtain ⟨token, s, next, ht, hs, rfl, hlongest⟩ :=
      Chart.exists_longest_of_through (Format.longestFirst_pattern f.inRange) ho
    obtain ⟨rfl, hm⟩ := Pattern.mem_ways_iff.1 ht
    obtain ⟨last, hl, rfl⟩ := Option.map_eq_some_iff.1 hs
    obtain ⟨tokens, rest, ending, he, ha, rfl, hall, hgreatest⟩ := ih hl
    refine ⟨token :: tokens, rest, ending, by simp [he], ha, by simp [body, segment],
      .cons hm hall, ?_⟩
    intro other rest' hother htext hrest' hne
    obtain ⟨token', others, hm', hall', rfl⟩ := List.forall₂_cons_left_iff.1 hother
    have hplace : token' ++ (body ['_'] fs others ++ rest') =
        token ++ (body ['_'] fs tokens ++ rest) := by
      simpa [body, segment] using htext.symm
    have hsome : (restarted (fieldsOutcome after ['_'] fs)
        (body ['_'] fs others ++ rest')).isSome = true := by
      obtain ⟨hlen, hzip⟩ := List.forall₂_iff_zip.1 hall'
      rw [restarted, Option.isSome_map]
      exact isSome_fieldsOutcome hlen.symm (fun pair hmem => hzip hmem) hrest'
    have hle : token'.length ≤ token.length :=
      hlongest token' _ (Pattern.mem_ways_iff.2 ⟨hplace.symm, hm'⟩) hsome
    apply lengths_lt_of_le hplace hle
    intro e
    rw [e] at hplace hne
    apply hgreatest others rest' hall' (List.append_cancel_left hplace).symm hrest'
    intro e'
    exact hne (congrArg (token :: ·) e')

/-- **The tokens that are read are the preferred split.**

**Proof sketch.** The leading text is fixed and what follows the fields succeeds exactly at the
trailing text, so a split of the text is a choice of tokens for the row of fields. -/
theorem isPreferred_of_tokens? {t : Template} {text : List Char} {tokens : List (List Char)}
    (h : t.tokens? text = some tokens) : t.IsPreferred text tokens := by
  refine ⟨isSplit_of_tokens? h, ?_⟩
  rw [tokens?_eq, Option.map_eq_some_iff] at h
  obtain ⟨found, hfound, rfl⟩ := h
  obtain ⟨u, r, inner, hu, hr, rfl⟩ := exists_of_through hfound
  obtain ⟨rfl, rfl⟩ := Pattern.mem_waysLiteral.1 hu
  obtain ⟨tokens, rest, ending, he, ha, rfl, hall, hgreatest⟩ :=
    exists_preferred_of_fieldsOutcome hr
  have hending : ending.2 = [] := by
    obtain ⟨v, s, last, hv, hs, rfl⟩ := exists_of_through ha
    unfold ended at hs
    split at hs
    · exact congrArg Prod.snd (Option.some.inj hs).symm
    · simp at hs
  have htokens : inner.2 = tokens := by
    rw [he, hending, List.append_nil]
  intro other hother hne
  obtain ⟨hmatches, hspell⟩ := isSplit_iff.1 hother
  have htrail : (Chart.through (Pattern.waysLiteral t.trail.toList) ended
      t.trail.toList).isSome = true := by
    apply isSome_through (r := []) (Pattern.mem_waysLiteral.2 ⟨by simp, rfl⟩)
    simp [ended]
  have htext : body [] t.fields tokens ++ rest =
      body [] t.fields other ++ t.trail.toList := by
    rw [spell_eq_body, List.append_assoc] at hspell
    exact (List.append_cancel_left hspell).symm
  dsimp only at hne ⊢
  rw [htokens] at hne ⊢
  exact hgreatest other t.trail.toList hmatches htext htrail hne

/-- A text has a preferred split exactly when it has a split. -/
theorem exists_preferred_iff {t : Template} {text : List Char} :
    (∃ tokens, t.IsPreferred text tokens) ↔ ∃ tokens, t.IsSplit text tokens := by
  constructor
  · rintro ⟨tokens, h⟩
    exact ⟨tokens, h.toIsSplit⟩
  · intro h
    obtain ⟨tokens, ht⟩ := Option.isSome_iff_exists.1 (isSome_tokens?_iff.2 h)
    exact ⟨tokens, isPreferred_of_tokens? ht⟩

/-- The tokens that are read are the preferred split, and there are none without it. -/
theorem tokens?_eq_some_iff {t : Template} {text : List Char} {tokens : List (List Char)} :
    t.tokens? text = some tokens ↔ t.IsPreferred text tokens := by
  refine ⟨isPreferred_of_tokens?, ?_⟩
  intro h
  obtain ⟨other, hother⟩ :=
    Option.isSome_iff_exists.1 (isSome_tokens?_iff.2 ⟨tokens, h.toIsSplit⟩)
  rw [hother, (isPreferred_of_tokens? hother).unique h]

/-- Reading answers that a text does not match a pattern exactly when the name has no split, and
then the text is the name and the pattern that of the template. -/
theorem read_noMatch_iff {t : Template} {name text pattern : String} :
    t.read name = .error (.noMatch text pattern) ↔
      text = name ∧ pattern = t.pattern ∧ ¬ ∃ tokens, t.IsSplit name.toList tokens := by
  rw [← isSome_tokens?_iff]
  cases h : t.tokens? name.toList with
  | none =>
    have hread : t.read name = .error (.noMatch name t.pattern) := by
      rw [read, h]
    rw [hread]
    simp [eq_comm]
  | some tokens =>
    simp only [Option.isSome_some, not_true_eq_false, and_false, iff_false]
    intro hread
    obtain ⟨_, f, token, _, _, _, hfield⟩ := (read_eq_error_iff h).1 hread
    exact read_ne_noMatch f token text pattern hfield

/-- **A name is read by its preferred split.** The name matches exactly when it has a split, and
reading answers that it does not match exactly when it has none. If it has one, it has exactly one
preferred split, and the fields read its tokens in order: all of them give a record with the names
of the template in order, and else the first fault is told. -/
theorem read_iff_preferred (t : Template) (name : String) :
    (t.matchesName name = true ↔ ∃ tokens, t.IsSplit name.toList tokens) ∧
    (∀ text pattern, t.read name = .error (.noMatch text pattern) ↔
      text = name ∧ pattern = t.pattern ∧ ¬ ∃ tokens, t.IsSplit name.toList tokens) ∧
    ((∃ tokens, t.IsSplit name.toList tokens) ↔ ∃! tokens, t.IsPreferred name.toList tokens) ∧
    ∀ tokens, t.IsPreferred name.toList tokens →
      (∀ r, t.read name = .ok r ↔ t.Reads tokens r.entries) ∧
      (∀ r, t.read name = .ok r → r.names = t.names) ∧
      ∀ e, t.read name = .error e ↔ ∃ before f token after,
        t.fields.zip tokens = before ++ (f, token) :: after ∧
          (∀ pair ∈ before, ∃ v, pair.1.read pair.2 = .ok v) ∧ f.read token = .error e := by
  refine ⟨isSome_tokens?_iff, fun text pattern => read_noMatch_iff, ?_, ?_⟩
  · rw [← exists_preferred_iff]
    constructor
    · rintro ⟨tokens, h⟩
      exact ⟨tokens, h, fun other h' => h'.unique h⟩
    · rintro ⟨tokens, h, -⟩
      exact ⟨tokens, h⟩
  · intro tokens h
    have htokens := tokens?_eq_some_iff.2 h
    refine ⟨fun r => read_eq_ok_iff htokens, ?_, fun e => read_eq_error_iff htokens⟩
    intro r hr
    exact ((read_eq_ok_iff htokens).1 hr).names_eq h.length_eq

end Template

end TypedNames
