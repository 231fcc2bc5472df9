import TypedNames.Proofs.Json.RecordRoundTrip

/-!
# Ways to build a record

A record can be built from pairs by inserting them one after another, by collecting them, or by
reading a JSON object with these members. All of this leads to the same record.

## Main results

* `Record.ofList_entries` — a record is what its own entries make.
* `Record.built_alike` — the ways to build a record, and what the built record holds.
-/

set_option autoImplicit false

namespace TypedNames.Record

/-- A record is what its own entries make. -/
theorem ofList_entries (r : Record) : ofList r.entries = r :=
  ext (entries_ofList r.nodup)

/-- **The ways to build a record** agree. Inserting pairs one after another, with or without using
what the insertions return, collecting them and reading an object with these members all lead to
one record. It holds the pairs, and each insertion returns the value that its name had just
before; later insertions leave the other entries and all places as they are; and collecting the
entries of a record gives the record back.

**Proof sketch.** One insertion adds its pair to those that a record holds, so by induction a row of
insertions does; what an insertion returns is what the record so far holds for its name. Reading an
object inserts its members in order, and objects of any layout have the members that were
written. -/
theorem built_alike (pairs : List (String × Value)) :
    empty.extend pairs = ofList pairs ∧
      empty.insertAll pairs =
        (pairs.mapIdx fun i pair => (pairs.take i).reverse.lookup pair.1, ofList pairs) ∧
      (∀ document, Json.HasMembers document pairs →
        Json.parseRecord document = .ok (ofList pairs)) ∧
      (∀ l : Json.Layout, (∀ pair ∈ pairs, pair.2.kind ≠ .float) →
        Json.HasMembers (String.ofList (l.pairsText pairs)) pairs) ∧
      (ofList pairs).Holds pairs ∧
      (∀ name value (i : Nat) entry, (ofList pairs).entries[i]? = some entry →
        ((ofList pairs).insert name value).entries[i]? =
          some (if entry.1 = name then (name, value) else entry)) ∧
      (∀ later (i : Nat) entry, (ofList pairs).entries[i]? = some entry →
        (ofList (pairs ++ later)).entries[i]? =
          some (entry.1, (later.reverse.lookup entry.1).getD entry.2)) ∧
      ∀ r : Record, ofList r.entries = r := by
  refine ⟨rfl, ?_, fun document h => ?_, fun l exact => ?_, holds_ofList pairs, ?_, ?_,
    ofList_entries⟩
  · exact Prod.ext (insertAll_fst holds_empty pairs) (insertAll_snd empty pairs)
  · exact Json.parseRecord_eq_ok_iff.2 ⟨pairs, h, rfl⟩
  · exact Json.hasMembers_pairsText_self l exact
  · exact fun name value i entry h => getElem?_insert (ofList pairs) name value h
  · intro later i entry h
    have hmore : ofList (pairs ++ later) = (ofList pairs).extend later := List.foldl_append
    rw [hmore, getElem?_extend (ofList pairs) later h]

end TypedNames.Record
