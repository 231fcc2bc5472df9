import TypedNames.Value

/-!
# Records

A record gives values to names. Its entries stand in the order in which their names first came,
and no name comes twice: a new value for a name that is there takes the place of the old one.

## Main definitions

* `Record` — a list of entries with distinct names.
* `Record.get?`, `Record.contains`, `Record.names` — what a record holds.
* `Record.insert`, `Record.getThenInsert`, `Record.ofList` — how records are made.
* `Record.equal` — the same names in the same order with equal values.

## Main results

* `Record.names_insert` — a new name goes to the end, a known one keeps its place.
* `Record.get?_insert` — after `insert` the name has the new value and the others have theirs.
-/

set_option autoImplicit false

namespace TypedNames

/-- Names with values, in order and without repetition. -/
structure Record where
  /-- The entries in order. -/
  entries : List (String × Value)
  nodup : (entries.map Prod.fst).Nodup
  deriving DecidableEq

namespace Record

/-- The record without entries. -/
def empty : Record where
  entries := []
  nodup := List.nodup_nil

/-- The names of a record in order. -/
def names (r : Record) : List String :=
  r.entries.map Prod.fst

/-- The number of entries. -/
def size (r : Record) : Nat :=
  r.entries.length

/-- Whether there are no entries. -/
def isEmpty (r : Record) : Bool :=
  r.entries.isEmpty

/-- The value of a name, if it has one. -/
def get? (r : Record) (name : String) : Option Value :=
  r.entries.lookup name

/-- Whether a name has a value. -/
def contains (r : Record) (name : String) : Bool :=
  (r.get? name).isSome

/-- The entries after `name` is given `value`. -/
def put (name : String) (value : Value) : List (String × Value) → List (String × Value)
  | [] => [(name, value)]
  | entry :: rest =>
    if entry.1 = name then (name, value) :: rest else entry :: put name value rest

/-- A name that is there keeps its place, and another one goes to the end. -/
theorem map_fst_put (name : String) (value : Value) (entries : List (String × Value)) :
    (put name value entries).map Prod.fst =
      if name ∈ entries.map Prod.fst then entries.map Prod.fst
      else entries.map Prod.fst ++ [name] := by
  induction entries with
  | nil => simp [put]
  | cons entry rest ih =>
    rw [put]
    split
    · next h => simp [h]
    · next h =>
      have h' : name ≠ entry.1 := fun e => h e.symm
      simp only [List.map_cons, ih, List.mem_cons, h', false_or]
      split <;> simp

/-- The value of a name in a list of entries is that of the first entry with the name. -/
theorem lookup_cons_eq_ite (name key : String) (value : Value) (rest : List (String × Value)) :
    ((key, value) :: rest).lookup name = if name = key then some value else rest.lookup name := by
  by_cases h : name = key
  · simp [h]
  · simp [List.lookup_cons, beq_false_of_ne h, h]

/-- The value of a name after `put`. -/
theorem lookup_put (name other : String) (value : Value) (entries : List (String × Value)) :
    (put name value entries).lookup other =
      if other = name then some value else entries.lookup other := by
  induction entries with
  | nil => rw [put, lookup_cons_eq_ite]
  | cons entry rest ih =>
    obtain ⟨k, v⟩ := entry
    rw [put]
    split
    · next h =>
      rw [lookup_cons_eq_ite, lookup_cons_eq_ite]
      change k = name at h
      subst h
      split <;> rfl
    · next h =>
      rw [lookup_cons_eq_ite, lookup_cons_eq_ite, ih]
      change ¬k = name at h
      split
      · next ho => rw [if_neg (ho ▸ h)]
      · rfl

/-- The record after `name` is given `value`. -/
def insert (r : Record) (name : String) (value : Value) : Record where
  entries := put name value r.entries
  nodup := by
    rw [map_fst_put]
    split
    · exact r.nodup
    · next h =>
      rw [List.nodup_append]
      refine ⟨r.nodup, by simp, ?_⟩
      intro a ha b hb
      rw [List.mem_singleton] at hb
      subst hb
      intro e
      exact h (e ▸ ha)

/-- The value that `name` has, and the record after it is given `value`. -/
def getThenInsert (r : Record) (name : String) (value : Value) : Option Value × Record :=
  (r.get? name, r.insert name value)

/-- The record that the pairs make when they are inserted one after another. -/
def ofList (pairs : List (String × Value)) : Record :=
  pairs.foldl (fun r entry => r.insert entry.1 entry.2) empty

/-- Whether two records have the same names in the same order with equal values. -/
def equal (r s : Record) : Bool :=
  r.entries.isEqv s.entries fun a b => a.1 == b.1 && a.2.equal b.2

/-- Two records are the same if their entries are. -/
theorem ext {r s : Record} (h : r.entries = s.entries) : r = s := by
  cases r; cases s; cases h; rfl

/-- The names after an insertion. -/
theorem names_insert (r : Record) (name : String) (value : Value) :
    (r.insert name value).names = if name ∈ r.names then r.names else r.names ++ [name] :=
  map_fst_put name value r.entries

/-- The value of a name after an insertion. -/
theorem get?_insert (r : Record) (name other : String) (value : Value) :
    (r.insert name value).get? other = if other = name then some value else r.get? other :=
  lookup_put name other value r.entries

end Record

end TypedNames
