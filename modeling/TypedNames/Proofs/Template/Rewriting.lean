import TypedNames.Proofs.Format.Reading
import TypedNames.Proofs.Template.RoundTrip

/-!
# Names that are written again

A name can spell a record in many ways: with more zeros in front of a number, with a minus in front
of zero, with zeros inside a padded text, with more decimals than a number can hold. When the record
that is read from a name is written again, its values take their canonical tokens. If at most one
field is one of texts without a width, this settles the name: reading and writing once more changes
nothing.

## Main results

* `Template.exists_write_iff` — when the record of a name can be written.
* `Template.exists_tokenizes_of_read` — the record of a name fits, and can be written if its numbers
  are finite.
* `Template.write_read_settled` — a name that was written again is its own canonical name.
-/

set_option autoImplicit false

namespace TypedNames

namespace Template

variable {t : Template} {r : Record} {name : String}

/-! ## The record of a name -/

/-- Each field reads its token as the value that the record gives to it. -/
theorem Reads.get?_eq {tokens : List (List Char)} (h : t.Reads tokens r.entries) :
    ∀ pair ∈ t.fields.zip tokens, ∃ v, r.get? pair.1.name = some v ∧
      pair.1.read pair.2 = .ok v := by
  intro pair hpair
  obtain ⟨entry, hentry, hname, hread⟩ := exists_mem_of_forall₂ h pair hpair
  exact ⟨entry.2, Record.get?_eq_some_iff.2 (hname ▸ hentry), hread⟩

/-- Each field has a token. -/
theorem IsSplit.exists_token {text : List Char} {tokens : List (List Char)}
    (h : t.IsSplit text tokens) : ∀ f ∈ t.fields, ∃ token, (f, token) ∈ t.fields.zip tokens := by
  intro f hf
  have hfields : (t.fields.zip tokens).map Prod.fst = t.fields :=
    List.map_fst_zip (Nat.le_of_eq h.length_eq.symm)
  rw [← hfields] at hf
  obtain ⟨pair, hpair, rfl⟩ := List.mem_map.1 hf
  exact ⟨pair.2, hpair⟩

/-- A name that is read has a split whose tokens are read as the entries of the record. -/
theorem exists_split_of_read (h : t.read name = .ok r) :
    ∃ tokens, t.tokens? name.toList = some tokens ∧ t.IsSplit name.toList tokens ∧
      t.Reads tokens r.entries := by
  cases htokens : t.tokens? name.toList with
  | none => simp [read, htokens] at h
  | some tokens => exact ⟨tokens, rfl, isSplit_of_tokens? htokens, (read_eq_ok_iff htokens).1 h⟩

/-- The record of a name has the names of the fields in order. -/
theorem names_eq_of_read (h : t.read name = .ok r) : r.names = t.names := by
  obtain ⟨tokens, -, hsplit, hreads⟩ := exists_split_of_read h
  exact hreads.names_eq hsplit.length_eq

/-- A field reads its value in the record of a name from a token that its pattern matches. -/
theorem exists_token_of_read (h : t.read name = .ok r) {f : Field} (hf : f ∈ t.fields) :
    ∃ token v, f.pattern.Matches token ∧ f.format.read token = .ok v ∧ r.get? f.name = some v := by
  obtain ⟨tokens, -, hsplit, hreads⟩ := exists_split_of_read h
  obtain ⟨token, hpair⟩ := hsplit.exists_token f hf
  obtain ⟨v, hv, hread⟩ := hreads.get?_eq _ hpair
  exact ⟨token, v, hsplit.matchesToken _ hpair, Field.read_eq_ok_iff.1 hread, hv⟩

/-! ## Writing again -/

/-- A record with the names of the fields has a name exactly when each field can write its value. -/
theorem exists_write_iff (hnames : r.names = t.names) :
    (∃ again, t.write r = .ok again) ↔
      ∀ f ∈ t.fields, ∃ v token, r.get? f.name = some v ∧ f.write v = .ok token := by
  constructor
  · rintro ⟨again, h⟩
    obtain ⟨-, tokens, htokens, -⟩ := write_eq_ok_iff.1 h
    have hfields : List.Forall₂ (fun (f : Field) _ => ∃ v token, r.get? f.name = some v ∧
        f.write v = .ok token) t.fields tokens :=
      htokens.imp fun f token ⟨v, hv, hwrite⟩ => ⟨v, token, hv, hwrite⟩
    exact forall_mem_of_forall₂ hfields
  · intro h
    obtain ⟨tokens, htokens⟩ : ∃ tokens, t.Tokenizes r tokens := by
      apply exists_forall₂_of_forall_mem
      intro f hf
      obtain ⟨v, token, hv, hwrite⟩ := h f hf
      exact ⟨token, v, hv, hwrite⟩
    exact ⟨_, write_eq_ok_iff.2 ⟨fun n hn => hnames ▸ hn, tokens, htokens, rfl⟩⟩

/-- **The record of a name fits and can be written** if its numbers are finite. Its padded texts
have no zeros of their own. -/
theorem exists_tokenizes_of_read (h : t.read name = .ok r)
    (finite : ∀ entry ∈ r.entries, entry.2.isFinite = true) :
    t.Fits r ∧ t.ZeroFree r ∧ ∃ tokens, t.Tokenizes r tokens ∧
      t.write r = .ok (String.ofList (t.spell tokens)) := by
  have hfield {f : Field} (hf : f ∈ t.fields) : ∃ v, r.get? f.name = some v ∧
      (∃ again, f.format.Writes v again) ∧ f.format.fits v = true ∧
        f.format.zeroFree v = true := by
    obtain ⟨token, v, hmatches, hread, hv⟩ := exists_token_of_read h hf
    have hfinite := finite _ (Record.get?_eq_some_iff.1 hv)
    exact ⟨v, hv, Format.exists_writes_of_read hmatches hread hfinite⟩
  refine ⟨?_, ?_, ?_⟩
  · intro f hf v hv
    obtain ⟨w, hw, -, hfits, -⟩ := hfield hf
    rwa [← Option.some.inj (hw.symm.trans hv)]
  · intro f hf v hv
    obtain ⟨w, hw, -, -, hfree⟩ := hfield hf
    rwa [← Option.some.inj (hw.symm.trans hv)]
  · have hwritable : ∃ again, t.write r = .ok again := by
      refine (exists_write_iff (names_eq_of_read h)).2 fun f hf => ?_
      obtain ⟨v, hv, ⟨again, hwrites⟩, -, -⟩ := hfield hf
      exact ⟨v, again, hv, Field.write_eq_ok_iff.2 hwrites⟩
    obtain ⟨again, hwrite⟩ := hwritable
    obtain ⟨-, tokens, htokens, rfl⟩ := write_eq_ok_iff.1 hwrite
    exact ⟨tokens, htokens, hwrite⟩

/-- A restored entry holds the restored value. -/
theorem Restores.get?_eq {r' : Record} (h : List.Forall₂ (Restores r) t.fields r'.entries)
    {f : Field} (hf : f ∈ t.fields) {v : Value} (hv : r.get? f.name = some v) :
    r'.get? f.name = some (f.format.restored v) := by
  obtain ⟨entry, hentry, hname, w, token, hw, -, -, hrestored, -⟩ := exists_mem_of_forall₂ h f hf
  obtain rfl := Option.some.inj (hw.symm.trans hv)
  rw [Record.get?_eq_some_iff, ← hname, ← hrestored]
  exact hentry

/-- The entries that restore a record have the names of the fields. -/
theorem Restores.names_eq {r' : Record} (h : List.Forall₂ (Restores r) t.fields r'.entries) :
    r'.names = t.names := by
  have hnames : List.Forall₂ (fun name name' => name = name') (r'.entries.map Prod.fst)
      (t.fields.map Field.name) := by
    rw [List.forall₂_map_left_iff, List.forall₂_map_right_iff]
    exact (h.imp fun f entry hentry => hentry.1).flip
  rwa [List.forall₂_eq_eq_eq] at hnames

/-- The restored record is written with the same tokens. -/
theorem tokenizes_of_restores {r' : Record} {tokens : List (List Char)} (h : t.Tokenizes r tokens)
    (free : t.ZeroFree r) (restores : List.Forall₂ (Restores r) t.fields r'.entries) :
    t.Tokenizes r' tokens := by
  apply forall₂_imp_of_mem h
  rintro f hf token ⟨v, hv, hwrite⟩
  refine ⟨f.format.restored v, Restores.get?_eq restores hf hv, ?_⟩
  exact Field.write_eq_ok_iff.2
    (Format.writes_restored f.inRange (Field.write_eq_ok_iff.1 hwrite) (free f hf v hv))

/-- **A name that was written again is settled**, if at most one field is one of texts without a
width. The record of a name whose numbers are finite can be written; the new name is read, and what
is read from it is written as the new name. All values but the numbers in fixed-point stay as they
are.

**Proof sketch.** The record of a name fits, so the new name is split into the tokens that were
written. What the fields read from these is written as the same tokens. -/
theorem write_read_settled (one : (t.fields.filter Field.isBare).length ≤ 1)
    (h : t.read name = .ok r) (finite : ∀ entry ∈ r.entries, entry.2.isFinite = true) :
    ∃ canonical r', t.write r = .ok canonical ∧ t.read canonical = .ok r' ∧
      t.write r' = .ok canonical ∧ r'.names = r.names ∧
      ∀ f ∈ t.fields, f.format.kind ≠ .float → r'.get? f.name = r.get? f.name := by
  obtain ⟨fits, free, tokens, htokens, hwrite⟩ := exists_tokenizes_of_read h finite
  obtain ⟨r', hreads, hrestores⟩ := exists_reads_of_tokenizes htokens
  have hnames : r'.names = t.names := Restores.names_eq hrestores
  have htokens' : t.Tokenizes r' tokens := tokenizes_of_restores htokens free hrestores
  refine ⟨_, r', hwrite, (read_eq_ok_iff (tokens?_of_write one htokens fits)).2 hreads,
    write_eq_ok_iff.2 ⟨fun n hn => hnames ▸ hn, tokens, htokens', rfl⟩,
    hnames.trans (names_eq_of_read h).symm, ?_⟩
  intro f hf hkind
  obtain ⟨token, v, -, -, hv⟩ := exists_token_of_read h hf
  rw [Restores.get?_eq hrestores hf hv, hv, Format.restored_of_zeroFree hkind (free f hf v hv)]

/-- What a name with more zeros and more decimals than it needs is read as. -/
def measuredAgain : Record where
  entries := [("n", .int 0), ("x", .float (.finite true ⟨4892433759222981601, by decide⟩)),
    ("tag", .str "m_0"), ("ok", .bool true), ("m", .str "ab")]
  nodup := by decide

/-- Such a name is settled when it was written again. -/
theorem write_read_settled_measured :
    (measured.fields.filter Field.isBare).length ≤ 1 ∧
    measured.read "out/n_-000_x_-0012345678901234567890.5_tag_m_0_ok_True_m_a0b0.csv" =
      .ok measuredAgain ∧
    (∀ entry ∈ measuredAgain.entries, entry.2.isFinite = true) ∧
    ∃ canonical r', measured.write measuredAgain = .ok canonical ∧
      measured.read canonical = .ok r' ∧ measured.write r' = .ok canonical ∧
      r'.names = measuredAgain.names ∧ ∀ f ∈ measured.fields, f.format.kind ≠ .float →
        r'.get? f.name = measuredAgain.get? f.name :=
  have h : measured.read "out/n_-000_x_-0012345678901234567890.5_tag_m_0_ok_True_m_a0b0.csv" =
      .ok measuredAgain := by decide +kernel
  ⟨by decide, h, by decide, write_read_settled (by decide) h (by decide)⟩

end Template

end TypedNames
