import TypedNames.Proofs.Json.Members

/-!
# Records through JSON

A record can be written and read again exactly when its numbers are finite. It comes back with its
names in their order and with values of the same kinds, and only a number of double precision may
come back changed. A number that is not finite is written as `null`, which is no value.

## Main results

* `Json.recordText_eq_pairsText`, `Json.prettyRecordText_eq_pairsText` — the two ways in which a
  record is written are layouts of its entries.
* `Json.parseRecord_written` — when a written record is read, and as what.
-/

set_option autoImplicit false

namespace TypedNames

/-- A value is read as one of its kind. -/
theorem Value.IsReadAs.kind_eq {v w : Value} (h : v.IsReadAs w) : w.kind = v.kind := by
  cases h <;> rfl

/-- A value is read as itself unless it is a number of double precision. -/
theorem Value.IsReadAs.eq {v w : Value} (h : v.IsReadAs w) (exact : v.kind ≠ .float) : w = v := by
  cases h with
  | float => exact absurd rfl exact
  | _ => rfl

namespace Json

/-- Names and kinds are read as they were, in the same order. -/
theorem map_kind_of_readsAs {pairs found : List (String × Value)}
    (h : List.Forall₂ ReadsAs pairs found) :
    (found.map fun pair => (pair.1, pair.2.kind)) =
      pairs.map fun pair => (pair.1, pair.2.kind) := by
  induction h with
  | nil => rfl
  | cons hpair _ ih => rw [List.map_cons, List.map_cons, ih, hpair.1, hpair.2.kind_eq]

/-- Pairs without numbers of double precision are read as themselves. -/
theorem hasMembers_pairsText_self (l : Layout) {pairs : List (String × Value)}
    (exact : ∀ pair ∈ pairs, pair.2.kind ≠ .float) :
    HasMembers (String.ofList (l.pairsText pairs)) pairs := by
  have finite : ∀ pair ∈ pairs, pair.2.isFinite = true := by
    intro pair mem
    have hkind := exact pair mem
    cases hvalue : pair.2 with
    | float x => exact absurd (hvalue ▸ rfl) hkind
    | _ => rfl
  obtain ⟨found, hfound, hmembers⟩ := hasMembers_pairsText l finite
  have heq : found = pairs := by
    rw [← List.forall₂_eq_eq_eq]
    refine (forall₂_imp_of_mem hfound ?_).flip
    intro pair mem other h
    exact Prod.ext h.1.symm (h.2.eq (exact pair mem))
  exact heq ▸ hmembers

/-- A record without white space is its entries in a layout. -/
theorem recordText_eq_pairsText (r : Record) : recordText r = Layout.compact.pairsText r.entries :=
  (Layout.objectText_compact _).symm

/-- A record with a line for each entry is its entries in a layout. -/
theorem prettyRecordText_eq_pairsText (r : Record) :
    prettyRecordText r = (Layout.lines 0).pairsText r.entries :=
  (Layout.objectText_lines r).symm

/-- The entries of a record, written in any layout, are read as those of a record. -/
theorem exists_parseRecord_pairsText (l : Layout) {r : Record}
    (finite : ∀ entry ∈ r.entries, entry.2.isFinite = true) :
    ∃ found, parseRecord (String.ofList (l.pairsText r.entries)) = .ok found ∧
      List.Forall₂ ReadsAs r.entries found.entries := by
  obtain ⟨pairs, hpairs, hmembers⟩ := hasMembers_pairsText l finite
  have hnames : pairs.map Prod.fst = r.entries.map Prod.fst := by
    have hmap := congrArg (List.map Prod.fst) (map_kind_of_readsAs hpairs)
    rwa [List.map_map, List.map_map] at hmap
  have hentries := Record.entries_ofList (hnames ▸ r.nodup)
  refine ⟨Record.ofList pairs, parseRecord_eq_ok_iff.2 ⟨pairs, hmembers, rfl⟩, ?_⟩
  rwa [hentries]

/-- **Records through JSON.** A record that is written, with a line for each entry or without white
space, is read exactly when all its numbers are finite, and then as a record with the same names and
kinds in the same order, each name with what its value is read as. Otherwise the reader finds
something that is no value.

**Proof sketch.** Either text is the entries of the record in a layout, so its members are known.
If the numbers are finite, each member gives its name with what the value is read as; as the names
are distinct, inserting the pairs keeps them all in their places. Otherwise some member is `null`,
and the first of them is the problem that is reported. -/
theorem parseRecord_written (r : Record) (pretty : Bool) :
    let outcome := parseRecord (String.ofList (if pretty then prettyRecordText r else recordText r))
    ((∃ found, outcome = .ok found) ↔ ∀ entry ∈ r.entries, entry.2.isFinite = true) ∧
      (∀ found, outcome = .ok found →
        (found.entries.map fun entry => (entry.1, entry.2.kind)) =
            (r.entries.map fun entry => (entry.1, entry.2.kind)) ∧
          List.Forall₂ ReadsAs r.entries found.entries) ∧
      (outcome = .error (.mismatch .notScalar) ↔
        ∃ entry ∈ r.entries, entry.2.isFinite = false) := by
  obtain ⟨l, hlayout⟩ : ∃ l : Layout,
      (if pretty then prettyRecordText r else recordText r) = l.pairsText r.entries := by
    cases pretty with
    | false => exact ⟨_, recordText_eq_pairsText r⟩
    | true => exact ⟨_, prettyRecordText_eq_pairsText r⟩
  rw [hlayout]
  intro outcome
  by_cases finite : ∀ entry ∈ r.entries, entry.2.isFinite = true
  · obtain ⟨found, hfound, hreads⟩ := exists_parseRecord_pairsText l finite
    refine ⟨⟨fun _ => finite, fun _ => ⟨found, hfound⟩⟩, fun other h => ?_, fun h => ?_, ?_⟩
    · obtain rfl := Except.ok.inj (hfound.symm.trans h)
      exact ⟨map_kind_of_readsAs hreads, hreads⟩
    · cases hfound.symm.trans h
    · rintro ⟨entry, mem, infinite⟩
      cases (finite entry mem).symm.trans infinite
  · have infinite : ∃ entry ∈ r.entries, entry.2.isFinite = false := by
      simpa only [not_forall, Bool.not_eq_true, exists_prop] using finite
    have herror : outcome = _ := parseRecord_pairsText_eq_error l infinite
    refine ⟨⟨?_, fun h => absurd h finite⟩, ?_, ⟨fun _ => infinite, fun _ => herror⟩⟩
    · rintro ⟨found, h⟩
      cases herror.symm.trans h
    · intro found h
      cases herror.symm.trans h

end Json

end TypedNames
