import TypedNames.Proofs.Format.Reading
import TypedNames.Proofs.Record.Insertion
import TypedNames.Proofs.Template.Conversion

/-!
# Which fault is told when a record is written

Before a template writes a record it compares the names of the two, and only then it goes through
the values. So one fault hides others: names without a value come first, names that the template
does not have come second, and the first field that refuses its value comes last. What is told about
names is complete, and each list is in the order of the side that has them.

Behind the comparison every field has a value. What the loop over the fields would answer to a
field without one is therefore of no account, and as long as the record has no other names than the
template, neither is the order of its entries.

## Main definitions

* `Field.Refuses` — why a field does not write a value.
* `Template.missing`, `Template.unknown` — the names of one side that the other does not have.
* `Template.Answers` — the outcome of writing a record, one rule for each stage.
* `Template.writeOr` — writing, with any answer to a field without a value.

## Main results

* `Field.write_eq_error_iff` — a field does not write a value exactly for the reasons given.
* `Template.writeOr_eq_iff` — the outcome is the one that the rules describe, whatever is answered
  to a field without a value.
* `Template.write_eq_of_perm` — the order of the entries does not matter.
* `Template.write_eq_iff_answers` — the outcome of writing a record.
-/

set_option autoImplicit false

namespace TypedNames

/-! ## One value -/

/-- A number that equals an integer is finite. -/
theorem Binary64.isFinite_of_ofInt64? {n : Int64} {x : Binary64} (h : ofInt64? n = some x) :
    x.isFinite = true := by
  unfold ofInt64? at h
  split at h
  · split at h
    · exact Option.some.inj h ▸ rfl
    · simp at h
  · simp at h

/-- The format writes values of its own kind, and one of numbers also integers. -/
def Format.Takes (format : Format) (kind : Kind) : Prop :=
  kind = format.kind ∨ format.kind = .float ∧ kind = .int

namespace Field

/-- **Why a field does not write a value.** Each fault names the field. -/
inductive Refuses (f : Field) : Value → Fault → Prop
  /-- The value is of a kind that the format does not write. -/
  | kindMismatch {v : Value} (other : ¬ f.format.Takes v.kind) :
    Refuses f v (.kindMismatch f.name f.format.kind v.kind)
  /-- No number equals the integer. -/
  | inexact {n : Int64} (float : f.format.kind = .float) (none : Binary64.ofInt64? n = none) :
    Refuses f (.int n) (.unwritable f.name (.inexact n))
  /-- The number is not finite. -/
  | notFinite {x : Binary64} (float : f.format.kind = .float) (infinite : x.isFinite = false) :
    Refuses f (.float x) (.unwritable f.name (.notFinite x))

variable {f : Field} {e : Fault}

/-- A number is refused exactly if it is not finite. -/
theorem writeFixed_eq_error_iff {i d : Nat} {x : Binary64} :
    f.writeFixed i d x = .error e ↔
      x.isFinite = false ∧ e = .unwritable f.name (.notFinite x) := by
  cases x <;> simp [writeFixed, Binary64.isFinite, eq_comm]

/-- A value of a kind that the format does not write is a mismatch. -/
theorem write_of_not_takes {v : Value} (other : ¬ f.format.Takes v.kind) :
    f.write v = .error (.kindMismatch f.name f.format.kind v.kind) := by
  have hown {format : Format} {kind : Kind} (h : f.format = format) (hkind : kind = format.kind) :
      f.format.Takes kind := .inl (by rw [h, hkind])
  unfold write
  split
  · next i d x hformat => exact absurd (hown hformat rfl) other
  · next i d n hformat => exact absurd (.inr ⟨by rw [hformat]; rfl, rfl⟩) other
  · next b hformat => exact absurd (hown hformat rfl) other
  · next width n hformat => exact absurd (hown hformat rfl) other
  · next padding s hformat => exact absurd (hown hformat rfl) other
  · rfl

/-- **A field does not write a value exactly for the reasons given.**

**Proof sketch.** By the format and the kind of the value: each branch of `Field.write` writes a
token or is one of the rules. A number that equals an integer is finite, so integers have no third
rule. -/
theorem write_eq_error_iff {v : Value} : f.write v = .error e ↔ f.Refuses v e := by
  constructor
  · intro h
    by_cases htakes : f.format.Takes v.kind
    · rcases htakes with hkind | ⟨float, hint⟩
      · cases v with
        | bool b =>
          rw [write_bool (Format.kind_eq_bool_iff.1 hkind.symm)] at h
          cases h
        | int n =>
          obtain ⟨width, hformat⟩ := Format.kind_eq_int_iff.1 hkind.symm
          rw [write_int hformat] at h
          cases h
        | float x =>
          obtain ⟨i, d, hformat⟩ := Format.kind_eq_float_iff.1 hkind.symm
          rw [write_float hformat] at h
          obtain ⟨infinite, rfl⟩ := writeFixed_eq_error_iff.1 h
          exact .notFinite hkind.symm infinite
        | str s =>
          obtain ⟨padding, hformat⟩ := Format.kind_eq_str_iff.1 hkind.symm
          rw [write_str hformat] at h
          cases h
      · obtain ⟨n, rfl⟩ := Value.kind_eq_int_iff.1 hint
        obtain ⟨i, d, hformat⟩ := Format.kind_eq_float_iff.1 float
        cases hequal : Binary64.ofInt64? n with
        | some x =>
          rw [write_equal hformat hequal] at h
          have hinfinite := (writeFixed_eq_error_iff.1 h).1
          rw [Binary64.isFinite_of_ofInt64? hequal] at hinfinite
          exact Bool.noConfusion hinfinite
        | none =>
          rw [write_inexact hformat hequal] at h
          obtain rfl := Except.error.inj h
          exact .inexact float hequal
    · rw [write_of_not_takes htakes] at h
      obtain rfl := Except.error.inj h
      exact .kindMismatch htakes
  · intro h
    cases h with
    | kindMismatch other => exact write_of_not_takes other
    | inexact float none =>
      obtain ⟨i, d, hformat⟩ := Format.kind_eq_float_iff.1 float
      exact write_inexact hformat none
    | notFinite float infinite =>
      obtain ⟨i, d, hformat⟩ := Format.kind_eq_float_iff.1 float
      rw [write_float hformat]
      exact writeFixed_eq_error_iff.2 ⟨infinite, rfl⟩

end Field

/-! ## Records with the same entries -/

/-- The order of the entries of a record does not matter for the values that it gives. -/
theorem Record.get?_eq_of_perm {r r' : Record} (h : r'.entries.Perm r.entries) (name : String) :
    r'.get? name = r.get? name :=
  Option.ext fun v => by rw [get?_eq_some_iff, get?_eq_some_iff, h.mem_iff]

/-! ## Stages of writing -/

namespace Template

/-- The names of the template to which the record gives no value, in the order of the template. -/
def missing (t : Template) (r : Record) : List String :=
  t.names.filter fun name => name ∉ r.names

/-- The names of the record that the template does not have, in the order of the record. -/
def unknown (t : Template) (r : Record) : List String :=
  r.names.filter fun name => name ∉ t.names

/-- **The outcome of writing a record.** Each rule is one stage, which is reached if the stages in
front of it find no fault. -/
inductive Answers (t : Template) (r : Record) : Except Fault String → Prop
  /-- Fields have no value: all of them are told. -/
  | missing (incomplete : t.missing r ≠ []) : Answers t r (.error (.missingFields (t.missing r)))
  /-- Each field has a value, and there are values for no field: all of them are told. -/
  | unknown (complete : t.missing r = []) (foreign : t.unknown r ≠ []) :
    Answers t r (.error (.unknownFields (t.unknown r)))
  /-- The names are the same, and a field does not write its value: the first one is told. -/
  | refused {before after : List Field} {f : Field} {v : Value} {e : Fault}
    (complete : t.missing r = []) (known : t.unknown r = [])
    (fields : t.fields = before ++ f :: after)
    (written : ∀ g ∈ before, ∃ w token, r.get? g.name = some w ∧ g.write w = .ok token)
    (value : r.get? f.name = some v) (refuses : f.write v = .error e) : Answers t r (.error e)
  /-- The names are the same, and each field writes its value: the name shows the tokens. -/
  | written {tokens : List (List Char)} (complete : t.missing r = []) (known : t.unknown r = [])
    (tokenizes : t.Tokenizes r tokens) : Answers t r (.ok (String.ofList (t.spell tokens)))

/-- The token of a field for a record, where `absent` is the answer if it has no value. -/
def tokenOr (absent : Field → Fault) (r : Record) (f : Field) : Except Fault (List Char) :=
  match r.get? f.name with
  | some value => f.write value
  | none => .error (absent f)

/-- Writing a record, where `absent` is the answer to a field without a value that is found only
behind the comparison of the names. -/
def writeOr (absent : Field → Fault) (t : Template) (r : Record) : Except Fault String :=
  let missing := t.names.filter fun name => !r.contains name
  let unknown := r.names.filter fun name => (t.field? name).isNone
  if missing ≠ [] then .error (.missingFields missing)
  else if unknown ≠ [] then .error (.unknownFields unknown)
  else do
    let tokens ← t.fields.mapM (tokenOr absent r)
    return String.ofList (t.spell tokens)

variable {t : Template} {r : Record} {absent : Field → Fault} {outcome : Except Fault String}

/-- A template answers with the name of the field. -/
theorem write_eq_writeOr (t : Template) (r : Record) :
    t.write r = t.writeOr (fun f => .missingFields [f.name]) r :=
  rfl

/-- The stages of writing, in terms of the names. -/
theorem writeOr_eq (absent : Field → Fault) (t : Template) (r : Record) :
    t.writeOr absent r =
      if t.missing r ≠ [] then .error (.missingFields (t.missing r))
      else if t.unknown r ≠ [] then .error (.unknownFields (t.unknown r))
      else t.fields.mapM (tokenOr absent r) >>= fun tokens =>
        .ok (String.ofList (t.spell tokens)) := by
  have hmissing : (t.names.filter fun name => !r.contains name) = t.missing r := by
    refine List.filter_congr fun name _ => ?_
    rw [Bool.eq_iff_iff, Bool.not_eq_true', ← Bool.not_eq_true, Record.contains,
      Record.isSome_get?_iff, decide_eq_true_eq]
  have hunknown : (r.names.filter fun name => (t.field? name).isNone) = t.unknown r := by
    refine List.filter_congr fun name _ => ?_
    rw [Bool.eq_iff_iff, field?_isNone_iff, decide_eq_true_eq]
  rw [← hmissing, ← hunknown]
  rfl

/-- Each field has a value if none is missing. -/
theorem exists_get?_of_missing (complete : t.missing r = []) {f : Field} (hf : f ∈ t.fields) :
    ∃ v, r.get? f.name = some v := by
  have hname := List.filter_eq_nil_iff.1 complete f.name (List.mem_map_of_mem hf)
  rw [decide_eq_true_eq, not_not, ← Record.isSome_get?_iff] at hname
  exact Option.isSome_iff_exists.1 hname

/-- The token of a field with a value. -/
theorem tokenOr_of_get? {f : Field} {v : Value} (h : r.get? f.name = some v) :
    tokenOr absent r f = f.write v := by
  simp only [tokenOr, h]

/-- The rules cover the outcome. -/
theorem answers_writeOr (absent : Field → Fault) (t : Template) (r : Record) :
    t.Answers r (t.writeOr absent r) := by
  rw [writeOr_eq]
  split
  · next hmissing => exact .missing hmissing
  next hmissing =>
  have hmissing := not_not.1 hmissing
  split
  · next hunknown => exact .unknown hmissing hunknown
  next hunknown =>
  have hunknown := not_not.1 hunknown
  cases htokens : t.fields.mapM (tokenOr absent r) with
  | ok tokens =>
    refine .written hmissing hunknown (forall₂_imp_of_mem (mapM_eq_ok_iff.1 htokens) ?_)
    intro f hf token htoken
    obtain ⟨v, hv⟩ := exists_get?_of_missing hmissing hf
    exact ⟨v, hv, tokenOr_of_get? hv ▸ htoken⟩
  | error e =>
    obtain ⟨before, f, after, hfields, hbefore, hfault⟩ := mapM_eq_error_iff.1 htokens
    obtain ⟨v, hv⟩ := exists_get?_of_missing hmissing (f := f) (by simp [hfields])
    refine .refused hmissing hunknown hfields ?_ hv (tokenOr_of_get? hv ▸ hfault)
    intro g hg
    obtain ⟨w, hw⟩ := exists_get?_of_missing hmissing (f := g) (by simp [hfields, hg])
    obtain ⟨token, htoken⟩ := hbefore g hg
    exact ⟨w, token, hw, tokenOr_of_get? hw ▸ htoken⟩

/-- The rules cover nothing but the outcome. -/
theorem writeOr_eq_of_answers (h : t.Answers r outcome) : t.writeOr absent r = outcome := by
  rw [writeOr_eq]
  cases h with
  | missing incomplete => rw [if_pos incomplete]
  | unknown complete foreign => rw [if_neg (not_not.2 complete), if_pos foreign]
  | @refused before after f v e complete known fields written value refuses =>
    rw [if_neg (not_not.2 complete), if_neg (not_not.2 known)]
    refine bind_eq_error (mapM_eq_error_iff.2 ⟨before, f, after, fields, ?_, ?_⟩)
    · intro g hg
      obtain ⟨w, token, hw, hwrite⟩ := written g hg
      exact ⟨token, by rw [tokenOr_of_get? hw, hwrite]⟩
    · rw [tokenOr_of_get? value, refuses]
  | @written tokens complete known tokenizes =>
    rw [if_neg (not_not.2 complete), if_neg (not_not.2 known), bind_eq_ok_iff]
    refine ⟨tokens, mapM_eq_ok_iff.2 (tokenizes.imp ?_), rfl⟩
    rintro f token ⟨v, hv, hwrite⟩
    rw [tokenOr_of_get? hv, hwrite]

/-- **The outcome is the one that the rules describe**, whatever is answered to a field without a
value. -/
theorem writeOr_eq_iff : t.writeOr absent r = outcome ↔ t.Answers r outcome :=
  ⟨fun h => h ▸ answers_writeOr absent t r, writeOr_eq_of_answers⟩

/-- **The order of the entries does not matter** if the template has all names of the record.

**Proof sketch.** The values are those of the names, so the same names are missing and the fields
write the same. Only the list of unknown names shows the order, and it is empty. -/
theorem write_eq_of_perm {r' : Record} (h : r'.entries.Perm r.entries)
    (known : ∀ name ∈ r.names, name ∈ t.names) : t.write r' = t.write r := by
  have hget : r'.get? = r.get? := funext (Record.get?_eq_of_perm h)
  have hnames : ∀ name, name ∈ r'.names ↔ name ∈ r.names := fun name => (h.map Prod.fst).mem_iff
  have hmissing : t.missing r' = t.missing r := by
    simp only [missing, hnames]
  have hunknown : t.unknown r' = [] ∧ t.unknown r = [] := by
    simp only [unknown, List.filter_eq_nil_iff, hnames, decide_eq_true_eq, not_not]
    exact ⟨known, known⟩
  have htoken (absent : Field → Fault) : tokenOr absent r' = tokenOr absent r :=
    funext fun f => by rw [tokenOr, tokenOr, hget]
  rw [write_eq_writeOr, write_eq_writeOr, writeOr_eq, writeOr_eq, hmissing, hunknown.1, hunknown.2,
    htoken]

/-- **The outcome of writing a record** is the one that the rules describe, and no other: the names
without a value, or else the names that the template does not have, or else the fault of the first
field that does not write its value, or else the name. A field that does not write a value answers
with its own name. A field without a value is never met behind the comparison of the names, and the
order of the entries does not matter if the template has all names of the record. -/
theorem write_eq_iff_answers (t : Template) (r : Record) :
    (∀ outcome, t.write r = outcome ↔ t.Answers r outcome) ∧
    (∀ f ∈ t.fields, ∀ v e, f.write v = .error e ↔ f.Refuses v e) ∧
    (∀ absent, t.writeOr absent r = t.write r) ∧
    ∀ r' : Record, r'.entries.Perm r.entries → (∀ name ∈ r.names, name ∈ t.names) →
      t.write r' = t.write r := by
  refine ⟨fun outcome => ?_, fun f _ v e => Field.write_eq_error_iff, fun absent => ?_,
    fun r' h known => write_eq_of_perm h known⟩
  · rw [write_eq_writeOr, writeOr_eq_iff]
  · exact writeOr_eq_of_answers (answers_writeOr _ t r)

/-- Where a name has no value, no more is told: neither an unknown name nor a value of another
kind. -/
example : (ofSpecs .unbounded [("a", "int"), ("b", "str")] "" "").bind
      (fun t => t.write (.ofList [("c", .int 1), ("a", .bool true)])) =
    .error (.missingFields ["b"]) := by
  rfl

end Template

end TypedNames
