import TypedNames.Proofs.Template.Readable

/-!
# Texts without underscores

A token that has no underscore ends at the first one behind it. So if no text of a record has an
underscore, its name has one split only, whatever the fields are and however they are called: the
tokens of another split would have to begin further to the right from some field on, and then the
underscore in front of one of them would stand in a token that was written.

## Main definitions

* `Value.underscoreFree`, `Template.UnderscoreFree` — no text has an underscore.

## Main results

* `Template.split_unique_of_notMem` — a split without underscores in its tokens is the only one.
* `Template.read_write_of_underscoreFree` — the name of a record without underscores in its texts
  has one split, and is read back field by field.
-/

set_option autoImplicit false

namespace TypedNames

/-- The value is not a text with an underscore. -/
def Value.underscoreFree : Value → Bool
  | .str s => !s.toList.contains '_'
  | _ => true

/-- The token of a value that fits has no underscore, unless the value is a text with one. -/
theorem Format.underscore_notMem_of_writes {format : Format} (range : format.InRange) {v : Value}
    {token : List Char} (h : format.Writes v token) (fits : format.fits v = true)
    (free : v.underscoreFree = true) : '_' ∉ token := by
  by_cases hkind : format.kind = .str
  · obtain ⟨padding, rfl⟩ := kind_eq_str_iff.1 hkind
    cases h with
    | str _ s =>
      have hs : '_' ∉ s.toList := by simpa [Value.underscoreFree] using free
      rcases padding with _ | ⟨n, side⟩
      · exact hs
      · rw [mem_strToken_iff]
        rintro (hmem | ⟨hzero, -⟩)
        · exact hs hmem
        · exact absurd hzero (by decide)
  · exact underscore_notMem_of_matches hkind ((matches_iff_fits range h).2 fits)

namespace Template

variable {t : Template} {r : Record}

/-- No text that the record gives to a field has an underscore. -/
def UnderscoreFree (t : Template) (r : Record) : Prop :=
  ∀ f ∈ t.fields, ∀ v ∈ r.get? f.name, v.underscoreFree = true

instance (t : Template) (r : Record) : Decidable (t.UnderscoreFree r) :=
  inferInstanceAs (Decidable (∀ f ∈ t.fields, ∀ v ∈ r.get? f.name, v.underscoreFree = true))

/-- **A split without underscores in its tokens is the only one of its text.** -/
theorem split_unique_of_notMem {text : List Char} {tokens others : List (List Char)}
    (h : t.IsSplit text tokens) (free : ∀ token ∈ tokens, '_' ∉ token)
    (h' : t.IsSplit text others) : others = tokens := by
  have hgrown : List.Forall₂ (fun u token => token.length ≤ u.length ∨ '_' ∉ token)
      others tokens := by
    refine List.forall₂_iff_zip.2 ⟨h'.length_eq.trans h.length_eq.symm, fun hmem => ?_⟩
    exact .inr (free _ (List.of_mem_zip hmem).2)
  have hbody : body [] t.fields others = body [] t.fields tokens :=
    spell_inj.1 (h'.spell_eq.trans h.spell_eq.symm)
  exact eq_of_body_eq hgrown h'.length_eq hbody

/-- A split without underscores in its tokens is the one that is read. -/
theorem tokens?_of_notMem {text : List Char} {tokens : List (List Char)} (h : t.IsSplit text tokens)
    (free : ∀ token ∈ tokens, '_' ∉ token) : t.tokens? text = some tokens := by
  obtain ⟨others, hothers⟩ := Option.isSome_iff_exists.1 (isSome_tokens?_iff.2 ⟨tokens, h⟩)
  rw [hothers, split_unique_of_notMem h free (isSplit_of_tokens? hothers)]

/-- The written tokens of a record that fits have no underscores if its texts have none. -/
theorem underscore_notMem_of_tokenizes {tokens : List (List Char)} (h : t.Tokenizes r tokens)
    (fits : t.Fits r) (free : t.UnderscoreFree r) : ∀ token ∈ tokens, '_' ∉ token := by
  have htokens : List.Forall₂ (fun token (_ : Field) => '_' ∉ token) tokens t.fields := by
    apply List.Forall₂.flip
    apply forall₂_imp_of_mem h
    rintro f hf token ⟨v, hv, hwrite⟩
    exact Format.underscore_notMem_of_writes f.inRange (Field.write_eq_ok_iff.1 hwrite)
      (fits f hf v hv) (free f hf v hv)
  exact forall_mem_of_forall₂ htokens

/-- **The name of a record without underscores in its texts is read back**, if the record fits: its
only split are the written tokens, and it is read as the record whose entries restore the values
field by field. There may be any number of texts without a width, and the names of the fields may
have underscores. -/
theorem read_write_of_underscoreFree {name : String} (h : t.write r = .ok name) (fits : t.Fits r)
    (free : t.UnderscoreFree r) :
    (∃ tokens, t.Tokenizes r tokens ∧
      ∀ others, t.IsSplit name.toList others ↔ others = tokens) ∧
    ∃ r', t.read name = .ok r' ∧ List.Forall₂ (Restores r) t.fields r'.entries := by
  obtain ⟨-, tokens, htokens, rfl⟩ := write_eq_ok_iff.1 h
  have hsplit := isSplit_of_tokenizes htokens fits
  have hfree := underscore_notMem_of_tokenizes htokens fits free
  obtain ⟨r', hreads, hrestores⟩ := exists_reads_of_tokenizes htokens
  refine ⟨⟨tokens, htokens, fun others => ⟨split_unique_of_notMem hsplit hfree, ?_⟩⟩, r',
    (read_eq_ok_iff (tokens?_of_notMem hsplit hfree)).2 hreads, hrestores⟩
  rintro rfl
  exact hsplit

/-- A template with three texts without a width, two of them with underscores in their names. -/
def nested : Template where
  lead := ""
  fields := [
    ⟨"p", "str", .str none, by decide, Format.parse_str⟩,
    ⟨"p_q", "str", .str none, by decide, Format.parse_str⟩,
    ⟨"q", "3str", .str (some (3, .front)), by decide, by rfl⟩,
    ⟨"q_p", "str", .str none, by decide, Format.parse_str⟩]
  trail := ""
  nodup := by decide

/-- Values for the template that are also names of its fields. -/
def nestedValues : Record where
  entries := [("q_p", .str "q"), ("q", .str "p"), ("p_q", .str "p"), ("p", .str "q")]
  nodup := by decide

/-- The name of these values is read back. -/
theorem read_write_nested :
    nested.write nestedValues = .ok "p_q_p_q_p_q_00p_q_p_q" ∧ nested.Fits nestedValues ∧
    nested.UnderscoreFree nestedValues ∧
    (∃ tokens, nested.Tokenizes nestedValues tokens ∧
      ∀ others, nested.IsSplit "p_q_p_q_p_q_00p_q_p_q".toList others ↔ others = tokens) ∧
    ∃ r', nested.read "p_q_p_q_p_q_00p_q_p_q" = .ok r' ∧
      List.Forall₂ (Restores nestedValues) nested.fields r'.entries :=
  have h : nested.write nestedValues = .ok "p_q_p_q_p_q_00p_q_p_q" := by decide +kernel
  ⟨h, by decide +kernel, by decide +kernel,
    read_write_of_underscoreFree h (by decide +kernel) (by decide +kernel)⟩

end Template

end TypedNames
