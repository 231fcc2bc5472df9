import TypedNames.Record

/-!
# Inserting pairs one after another

What a record holds after any number of insertions is told by the inserted pairs alone: the names
in the order in which they first came, each with the value that came last. One insertion keeps
this, and so does a row of them.

## Main definitions

* `Record.Holds` — the record is what insertions of the given pairs lead to.
* `Record.extend` — the record after all the pairs are inserted.
* `Record.insertAll` — the same, with what each insertion returns.

## Main results

* `Record.Holds.insert`, `Record.Holds.extend` — one insertion, and a row of them.
* `Record.insertAll_fst` — each insertion returns the value that the name had just before.
* `Record.getElem?_insert`, `Record.getElem?_extend` — insertions leave the other entries and all
  places as they are.
-/

set_option autoImplicit false

namespace TypedNames.Record

variable {r : Record} {before pairs : List (String × Value)}

/-- **The record holds the pairs**: its names are those of the pairs in the order of their first
occurrence, and each has the value that was given for it last. -/
structure Holds (r : Record) (pairs : List (String × Value)) : Prop where
  nodup : r.names.Nodup
  names_eq : r.names = (pairs.map Prod.fst).eraseDups
  get?_eq : ∀ name, r.get? name = pairs.reverse.lookup name
  contains_iff : ∀ name, r.contains name = true ↔ name ∈ pairs.map Prod.fst
  size_eq : r.size = (pairs.map Prod.fst).eraseDups.length

/-- The record after the pairs are inserted one after another. -/
def extend (r : Record) (pairs : List (String × Value)) : Record :=
  pairs.foldl (fun r entry => r.insert entry.1 entry.2) r

/-- The pairs are inserted one after another: the values that the insertions return, and the
record in the end. -/
def insertAll (r : Record) : List (String × Value) → List (Option Value) × Record
  | [] => ([], r)
  | entry :: rest =>
    let (old, next) := r.getThenInsert entry.1 entry.2
    let (olds, last) := next.insertAll rest
    (old :: olds, last)

/-- A name has a value exactly when it is one of the names. -/
theorem isSome_get?_iff (r : Record) (name : String) : (r.get? name).isSome ↔ name ∈ r.names := by
  rw [get?, names, List.lookup_isSome_iff, List.mem_map]
  constructor
  · rintro ⟨entry, mem, eq⟩
    exact ⟨entry, mem, (beq_iff_eq.1 eq).symm⟩
  · rintro ⟨entry, mem, eq⟩
    exact ⟨entry, mem, beq_iff_eq.2 eq.symm⟩

/-- Names and values are all there is to check. -/
theorem Holds.of_names_of_get? (names_eq : r.names = (pairs.map Prod.fst).eraseDups)
    (get?_eq : ∀ name, r.get? name = pairs.reverse.lookup name) : r.Holds pairs where
  nodup := r.nodup
  names_eq := names_eq
  get?_eq := get?_eq
  contains_iff name := by rw [contains, isSome_get?_iff, names_eq, List.mem_eraseDups]
  size_eq := by rw [← names_eq, names, List.length_map, size]

/-- The record without entries holds no pairs. -/
theorem holds_empty : empty.Holds [] :=
  .of_names_of_get? rfl fun _ => rfl

/-- **One insertion** adds its pair to those that the record holds. -/
theorem Holds.insert (h : r.Holds before) (name : String) (value : Value) :
    (r.insert name value).Holds (before ++ [(name, value)]) := by
  apply of_names_of_get?
  · rw [names_insert, h.names_eq, List.map_append, List.eraseDups_append]
    simp only [List.mem_eraseDups]
    by_cases mem : name ∈ before.map Prod.fst
    · simp [mem, List.removeAll]
    · simp [mem, List.removeAll, List.eraseDups_cons]
  · intro other
    rw [get?_insert, h.get?_eq, List.reverse_append, List.reverse_singleton, List.singleton_append,
      lookup_cons_eq_ite]

/-- **A row of insertions** adds its pairs to those that the record holds. -/
theorem Holds.extend (h : r.Holds before) (pairs : List (String × Value)) :
    (r.extend pairs).Holds (before ++ pairs) := by
  induction pairs generalizing r before with
  | nil => simpa [Record.extend] using h
  | cons entry rest ih =>
    have hrest := ih (h.insert entry.1 entry.2)
    rwa [List.append_assoc, List.singleton_append] at hrest

/-- The record that pairs make holds them. -/
theorem holds_ofList (pairs : List (String × Value)) : (ofList pairs).Holds pairs :=
  holds_empty.extend pairs

/-- The record in the end does not depend on what is done with the returned values. -/
theorem insertAll_snd (r : Record) (pairs : List (String × Value)) :
    (r.insertAll pairs).2 = r.extend pairs := by
  induction pairs generalizing r with
  | nil => rfl
  | cons entry rest ih => exact ih (r.insert entry.1 entry.2)

/-- **Each insertion returns the value that the name had just before**, which is the one that the
pairs up to there give it last. -/
theorem insertAll_fst (h : r.Holds before) (pairs : List (String × Value)) :
    (r.insertAll pairs).1 =
      pairs.mapIdx fun i entry => (before ++ pairs.take i).reverse.lookup entry.1 := by
  induction pairs generalizing r before with
  | nil => rfl
  | cons entry rest ih =>
    have hrest := ih (h.insert entry.1 entry.2)
    have hfirst : r.get? entry.1 = (before ++ []).reverse.lookup entry.1 := by
      rw [List.append_nil, h.get?_eq]
    simp only [List.append_assoc, List.singleton_append] at hrest
    change r.get? entry.1 :: ((r.insert entry.1 entry.2).insertAll rest).1 = _
    rw [hfirst, hrest, List.mapIdx_cons]
    rfl

/-- A list of entries with distinct names after `put`, place by place. -/
theorem getElem?_put {entries : List (String × Value)} (nodup : (entries.map Prod.fst).Nodup)
    (name : String) (value : Value) {i : Nat} {entry : String × Value}
    (h : entries[i]? = some entry) :
    (put name value entries)[i]? = some (if entry.1 = name then (name, value) else entry) := by
  induction entries generalizing i with
  | nil => simp at h
  | cons first rest ih =>
    obtain ⟨notMem, nodup⟩ := List.nodup_cons.1 nodup
    rw [put]
    cases i with
    | zero =>
      obtain rfl : first = entry := by simpa using h
      split <;> simp
    | succ i =>
      rw [List.getElem?_cons_succ] at h
      split
      · next eq =>
        have ne : entry.1 ≠ name :=
          fun e => notMem (List.mem_map.2 ⟨entry, List.mem_of_getElem? h, e.trans eq.symm⟩)
        rw [List.getElem?_cons_succ, h, if_neg ne]
      · rw [List.getElem?_cons_succ, ih nodup h]

/-- **An insertion leaves the other entries and all places as they are.** -/
theorem getElem?_insert (r : Record) (name : String) (value : Value) {i : Nat}
    {entry : String × Value} (h : r.entries[i]? = some entry) :
    (r.insert name value).entries[i]? = some (if entry.1 = name then (name, value) else entry) :=
  getElem?_put r.nodup name value h

/-- **A row of insertions leaves all places as they are**, and an entry whose name is not among the
inserted ones keeps its value. -/
theorem getElem?_extend (r : Record) (later : List (String × Value)) {i : Nat}
    {entry : String × Value} (h : r.entries[i]? = some entry) :
    (r.extend later).entries[i]? =
      some (entry.1, (later.reverse.lookup entry.1).getD entry.2) := by
  induction later generalizing r entry with
  | nil => exact h
  | cons pair rest ih =>
    have hnext := ih (r.insert pair.1 pair.2) (getElem?_insert r pair.1 pair.2 h)
    have hname : (if entry.1 = pair.1 then (pair.1, pair.2) else entry).1 = entry.1 := by
      split
      · next eq => exact eq.symm
      · rfl
    have hvalue : (if entry.1 = pair.1 then (pair.1, pair.2) else entry).2 =
        ([pair].lookup entry.1).getD entry.2 := by
      rw [lookup_cons_eq_ite]
      split <;> rfl
    change ((r.insert pair.1 pair.2).extend rest).entries[i]? = _
    rw [hnext, hname, hvalue, List.reverse_cons, List.lookup_append, Option.getD_or]

end TypedNames.Record
