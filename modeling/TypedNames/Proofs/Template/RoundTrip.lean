import TypedNames.Proofs.Template.Overlap

/-!
# Names that are read back

If a template has at most one field of texts without a width, a name has at most one split. So the
name of a record that fits is split into the tokens that were written, and each field reads its own
token back.

## Main definitions

* `Template.Restores` — an entry holds what a field reads from the token of its value.

## Main results

* `Template.tokens?_of_write` — the tokens of a name are those that were written.
* `Template.read_write` — the name of a record that fits is read back field by field.
-/

set_option autoImplicit false

namespace TypedNames

namespace Template

/-- The entry has the name of the field and what the field reads from the token that it wrote for
its value in the record. That is the value itself, unless it is a number in fixed-point or a padded
text with zeros of its own; a number in fixed-point becomes the number nearest to its decimal. -/
def Restores (r : Record) (f : Field) (entry : String × Value) : Prop :=
  entry.1 = f.name ∧ ∃ v token, r.get? f.name = some v ∧ f.write v = .ok token ∧
    f.read token = .ok entry.2 ∧ entry.2 = f.format.restored v ∧
    (f.format.kind ≠ .float → f.format.zeroFree v = true → entry.2 = v) ∧
    ∀ i d, f.format = .fixed i d → ∃ negative scaled, v.decimal? d = some (negative, scaled) ∧
      entry.2 = .float (Binary64.ofQuotient negative scaled (Nat.pow 10 d))

/-- A field reads from the token of its value an entry that restores it. -/
theorem exists_restores {r : Record} {f : Field} {v : Value} {token : List Char}
    (hv : r.get? f.name = some v) (hwrite : f.write v = .ok token) :
    ∃ entry, Restores r f entry ∧ entry.1 = f.name ∧ f.read token = .ok entry.2 := by
  have hwrites : f.format.Writes v token := Field.write_eq_ok_iff.1 hwrite
  have hread : f.read token = .ok (f.format.restored v) := by
    rw [Field.read, Format.read_of_writes f.inRange hwrites]
    rfl
  refine ⟨(f.name, f.format.restored v), ⟨rfl, v, token, hv, hwrite, hread, rfl, ?_, ?_⟩, rfl,
    hread⟩
  · intro hkind hfree
    exact Format.restored_of_zeroFree hkind hfree
  · intro i d hformat
    have range : (Format.fixed i d).InRange := hformat ▸ f.inRange
    rw [hformat] at hwrites ⊢
    obtain ⟨negative, scaled, hdecimal, -⟩ := (Format.writes_fixed_iff range.2.1).1 hwrites
    exact ⟨negative, scaled, hdecimal, by rw [Format.restored, hdecimal]⟩

/-- The written tokens of a record that fits are a split of its name. -/
theorem isSplit_of_tokenizes {t : Template} {r : Record} {tokens : List (List Char)}
    (h : t.Tokenizes r tokens) (fits : t.Fits r) :
    t.IsSplit (String.ofList (t.spell tokens)).toList tokens := by
  refine isSplit_iff.2 ⟨(accepted_iff_fits h).2 fits, ?_⟩
  rw [String.toList_ofList]

/-- The tokens that are read from the name of a record that fits are those that were written, if at
most one field is one of texts without a width. -/
theorem tokens?_of_write {t : Template} (one : (t.fields.filter Field.isBare).length ≤ 1)
    {r : Record} {tokens : List (List Char)} (h : t.Tokenizes r tokens) (fits : t.Fits r) :
    t.tokens? (String.ofList (t.spell tokens)).toList = some tokens := by
  have hsplit := isSplit_of_tokenizes h fits
  obtain ⟨other, hother⟩ := Option.isSome_iff_exists.1 (isSome_tokens?_iff.2 ⟨tokens, hsplit⟩)
  rw [hother, split_unique one (isSplit_of_tokens? hother) hsplit]

/-- What the fields restore from a record is what they read from its tokens. -/
theorem exists_reads_of_tokenizes {t : Template} {r : Record} {tokens : List (List Char)}
    (h : t.Tokenizes r tokens) :
    ∃ r' : Record, t.Reads tokens r'.entries ∧
      List.Forall₂ (Restores r) t.fields r'.entries := by
  have hlen : tokens.length = t.fields.length := h.length_eq.symm
  obtain ⟨entries, hentries⟩ := exists_forall₂_zip
    (T := fun pair entry => Restores r pair.1 entry ∧ entry.1 = pair.1.name ∧
      pair.1.read pair.2 = .ok entry.2) h fun f token ⟨v, hv, hwrite⟩ => exists_restores hv hwrite
  have hreads : t.Reads tokens entries := hentries.imp fun pair entry hentry => hentry.2
  have hnodup : (entries.map Prod.fst).Nodup := by
    rw [hreads.names_eq hlen]
    exact t.nodup
  refine ⟨⟨entries, hnodup⟩, hreads, ?_⟩
  have hfields : (t.fields.zip tokens).map Prod.fst = t.fields :=
    List.map_fst_zip (Nat.le_of_eq hlen.symm)
  rw [← hfields, List.forall₂_map_left_iff]
  exact hentries.imp fun pair entry hentry => hentry.1

/-- **Names are read back**, if at most one field is one of texts without a width. Then a text has
at most one split, and the name of a record that fits is read as the record whose entries restore
its values field by field.

**Proof sketch.** The written tokens are a split of the name, so they are the tokens that are read,
and each field reads its own token back. -/
theorem read_write {t : Template} (one : (t.fields.filter Field.isBare).length ≤ 1) :
    (∀ text xs ys, t.IsSplit text xs → t.IsSplit text ys → xs = ys) ∧
    ∀ r name, t.write r = .ok name → t.Fits r →
      ∃ r', t.read name = .ok r' ∧ List.Forall₂ (Restores r) t.fields r'.entries := by
  refine ⟨fun text xs ys hx hy => split_unique one hx hy, ?_⟩
  intro r name hwrite fits
  obtain ⟨-, tokens, htokens, rfl⟩ := write_eq_ok_iff.1 hwrite
  obtain ⟨r', hreads, hrestores⟩ := exists_reads_of_tokenizes htokens
  exact ⟨r', (read_eq_ok_iff (tokens?_of_write one htokens fits)).2 hreads, hrestores⟩

/-- A template with numbers, a truth value, a padded text and one text without a width. -/
def measured : Template where
  lead := "out/"
  fields := [
    ⟨"n", "3int", .int (some 3), by decide, by rfl⟩,
    ⟨"x", "fp2.1", .fixed 2 1, by decide, by rfl⟩,
    ⟨"tag", "str", .str none, by decide, Format.parse_str⟩,
    ⟨"ok", "bool", .bool, by decide, by rfl⟩,
    ⟨"m", "4str", .str (some (4, .front)), by decide, by rfl⟩]
  trail := ".csv"
  nodup := by decide

/-- Values for the template, among them a text that looks like the field behind it. -/
def measuredValues : Record where
  entries := [("n", .int (-4)), ("x", .int 7), ("tag", .str "a_ok_True"), ("ok", .bool false),
    ("m", .str "b1")]
  nodup := by decide

/-- The name of these values is read back. -/
theorem read_write_measured :
    (measured.fields.filter Field.isBare).length ≤ 1 ∧
    measured.write measuredValues = .ok "out/n_-04_x_07.0_tag_a_ok_True_ok_False_m_00b1.csv" ∧
    ∃ r', measured.read "out/n_-04_x_07.0_tag_a_ok_True_ok_False_m_00b1.csv" = .ok r' ∧
      List.Forall₂ (Restores measuredValues) measured.fields r'.entries :=
  ⟨by decide, by decide +kernel,
    (read_write (by decide)).2 measuredValues _ (by decide +kernel) (by decide +kernel)⟩

end Template

end TypedNames
