import Mathlib.Data.List.Nodup
import TypedNames.Proofs.Template.Conversion
import TypedNames.Schema.Basic
import TypedNames.Template.Draft

/-!
# How templates are built

A template can be built from names with specifiers at once, by a draft that collects its parts call
by call, or from a schema. All ways have one outcome, and it is a property of the names, the
specifiers, the two texts and the engine alone: the fault of the first pair that is no field; or the
first name that comes again; or a pattern that the engine does not compile; or the template of the
pairs. For a draft neither the order of the calls for texts matters nor which fields were made
before they are added.

An engine is documented to refuse the notation of a pattern only for the size of its compiled form.
What this size is remains open.

## Main definitions

* `Engine.Documented` — an engine refuses the patterns of names only for their size.
* `Field.Rejects` — why a name and a specifier make no field.
* `Template.Builds` — the outcome for names, specifiers and texts.
* `Draft.Call`, `Draft.run` — calls that collect parts, one after another.
* `Draft.Supplies` — calls that supply names, specifiers and texts.

## Main results

* `firstRepeat?_eq_some_iff` — which name is the first one to come again.
* `Template.ofSpecs_eq_iff_builds` — the outcome is the one that the rules describe.
* `Draft.build_run` — a draft has the outcome for what its calls supply.
* `Template.field?_eq_some_iff` — a template finds its fields by name.
* `Template.all_ways_agree` — all ways to build a template have one outcome.
-/

set_option autoImplicit false

namespace TypedNames

/-! ## Repeated names -/

/-- Where no name comes again, all names have been seen behind it. -/
theorem firstRepeat?_append {seen before : List String} (rest : List String)
    (h : firstRepeat? seen before = none) :
    firstRepeat? seen (before ++ rest) = firstRepeat? (before.reverse ++ seen) rest := by
  induction before generalizing seen with
  | nil => rfl
  | cons name before ih =>
    rw [firstRepeat?] at h
    split at h
    · simp at h
    · next hnew =>
      rw [List.cons_append, firstRepeat?, if_neg hnew, ih h, List.reverse_cons, List.append_assoc]
      rfl

/-- A name that comes again stands behind names that do not, and is among them or has been seen. -/
theorem exists_of_firstRepeat? {seen names : List String} {name : String}
    (h : firstRepeat? seen names = some name) : ∃ before after, names = before ++ name :: after ∧
      firstRepeat? seen before = none ∧ name ∈ before.reverse ++ seen := by
  induction names generalizing seen with
  | nil => simp [firstRepeat?] at h
  | cons head rest ih =>
    rw [firstRepeat?] at h
    split at h
    · next hseen =>
      obtain rfl := Option.some.inj h
      exact ⟨[], rest, rfl, rfl, hseen⟩
    · next hnew =>
      obtain ⟨before, after, rfl, hnone, hmem⟩ := ih h
      refine ⟨head :: before, after, rfl, ?_, by simpa using hmem⟩
      rw [firstRepeat?, if_neg hnew, hnone]

/-- **The first name that comes again** is among the names before it, and these are distinct. -/
theorem firstRepeat?_eq_some_iff {names : List String} {name : String} :
    firstRepeat? [] names = some name ↔ ∃ before after, names = before ++ name :: after ∧
      before.Nodup ∧ name ∈ before := by
  constructor
  · intro h
    obtain ⟨before, after, rfl, hnone, hmem⟩ := exists_of_firstRepeat? h
    exact ⟨before, after, rfl, (firstRepeat?_eq_none_iff.1 hnone).1, by simpa using hmem⟩
  · rintro ⟨before, after, rfl, hnodup, hmem⟩
    have hnone : firstRepeat? [] before = none :=
      firstRepeat?_eq_none_iff.2 ⟨hnodup, fun n _ => List.not_mem_nil⟩
    rw [firstRepeat?_append _ hnone, firstRepeat?, if_pos (by simpa using hmem)]

/-! ## Fields -/

namespace Field

/-- The name and the specifier of a field, as they were given. -/
def pair (f : Field) : String × String :=
  (f.name, f.spec)

/-- Why a name and a specifier make no field. The name is looked at first. -/
inductive Rejects (name spec : String) : Fault → Prop
  /-- The name is empty. -/
  | emptyName (empty : name = "") : Rejects name spec .emptyName
  /-- The name is not empty, and the text is no specifier. -/
  | badSpecifier (ne : name ≠ "") {cause : SpecFault} (bad : Format.parse spec = .error cause) :
    Rejects name spec (.badSpecifier spec cause)

variable {name spec : String}

/-- **A name and a specifier make the field that has them**, and no other. -/
theorem make_eq_ok_iff {f : Field} : make name spec = .ok f ↔ f.pair = (name, spec) := by
  constructor
  · intro h
    unfold make at h
    split at h
    · simp at h
    · split at h
      · obtain rfl := Except.ok.inj h
        rfl
      · simp at h
  · intro h
    obtain ⟨rfl, rfl⟩ := Prod.mk.inj h
    exact make_of_parse f.name_ne f.parse_spec

/-- **A name and a specifier are rejected for the reasons given**, and for no others. -/
theorem make_eq_error_iff {e : Fault} : make name spec = .error e ↔ Rejects name spec e := by
  constructor
  · intro h
    unfold make at h
    split at h
    · next hempty =>
      obtain rfl := Except.error.inj h
      exact .emptyName hempty
    · next hne =>
      split at h
      · simp at h
      · next cause hcause =>
        obtain rfl := Except.error.inj h
        exact .badSpecifier hne hcause
  · intro h
    cases h with
    | emptyName hempty => rw [make, dif_pos hempty]
    | badSpecifier hne hbad => exact make_of_parse_eq_error hne hbad

/-- **Pairs make the fields that have them**, one after another. -/
theorem mapM_make_eq_ok_iff {specs : List (String × String)} {fields : List Field} :
    (specs.mapM fun entry => make entry.1 entry.2) = .ok fields ↔ fields.map pair = specs := by
  rw [mapM_eq_ok_iff, ← List.forall₂_eq_eq_eq, List.forall₂_map_left_iff]
  constructor
  · intro h
    exact (h.imp fun entry f hmake => make_eq_ok_iff.1 hmake).flip
  · intro h
    exact (h.imp fun f entry hpair => make_eq_ok_iff.2 hpair).flip

end Field

/-! ## Engines -/

namespace Engine

/-- **The engine is as documented**: the notation of a pattern of names is well formed, so the
engine refuses it exactly if the compiled form takes more bytes than the limit. -/
structure Documented (engine : Engine) : Prop where
  refusal?_eq : ∀ (fields : List Field) (lead trail : String),
    engine.refusal? (Template.wholePattern fields lead trail).text =
      if engine.size (Template.wholePattern fields lead trail).text ≤ sizeLimit then none
      else some (.tooLarge sizeLimit)

variable {engine : Engine} {fields : List Field} {lead trail : String}

/-- A pattern within the limit is compiled. -/
theorem Documented.refusal?_eq_none (h : engine.Documented)
    (within : engine.size (Template.wholePattern fields lead trail).text ≤ sizeLimit) :
    engine.refusal? (Template.wholePattern fields lead trail).text = none := by
  rw [h.refusal?_eq, if_pos within]

/-- A pattern beyond the limit is refused. -/
theorem Documented.refusal?_eq_some (h : engine.Documented)
    (beyond : sizeLimit < engine.size (Template.wholePattern fields lead trail).text) :
    engine.refusal? (Template.wholePattern fields lead trail).text =
      some (.tooLarge sizeLimit) := by
  rw [h.refusal?_eq, if_neg (Nat.not_le.2 beyond)]

/-- An engine that refuses nothing but what is too large is as documented. -/
theorem documented_bySize (size : String → Nat) : (bySize size).Documented :=
  ⟨fun _ _ _ => rfl⟩

end Engine

/-! ## The outcome -/

namespace Template

variable {engine : Engine} {specs : List (String × String)} {lead trail : String}

/-- The outcome for names with specifiers and for two texts. A field stands for a pair that makes
it. -/
inductive Builds (engine : Engine) (specs : List (String × String)) (lead trail : String) :
    Except Fault Template → Prop
  /-- A pair is no field, and all pairs before it are. -/
  | rejected (before : List Field) {name spec : String} {after : List (String × String)} {e : Fault}
    (pairs : specs = before.map Field.pair ++ (name, spec) :: after)
    (rejects : Field.Rejects name spec e) : Builds engine specs lead trail (.error e)
  /-- All pairs are fields, and a field has the name of one before it; until then the names are
  distinct. -/
  | repeated (before : List Field) (f : Field) (after : List Field)
    (pairs : specs = (before ++ f :: after).map Field.pair)
    (distinct : (before.map Field.name).Nodup) (again : f.name ∈ before.map Field.name) :
    Builds engine specs lead trail (.error (.duplicateField f.name))
  /-- All pairs are fields with distinct names, and the engine does not compile their pattern. -/
  | refused (fields : List Field) (pairs : specs = fields.map Field.pair)
    (distinct : (fields.map Field.name).Nodup) {cause : Engine.Refusal}
    (refuses : engine.refusal? (wholePattern fields lead trail).text = some cause) :
    Builds engine specs lead trail (.error (.badPattern cause))
  /-- The template has the pairs as its fields, in order, and the two texts, and the engine compiles
  its pattern. -/
  | made (t : Template) (pairs : specs = t.fields.map Field.pair) (front : t.lead = lead)
    (back : t.trail = trail) (compiles : engine.refusal? t.matcher.text = none) :
    Builds engine specs lead trail (.ok t)

/-- If all pairs are fields, the outcome is that for the fields. -/
theorem ofSpecs_map_pair (engine : Engine) (fields : List Field) (lead trail : String) :
    ofSpecs engine (fields.map Field.pair) lead trail = make engine fields lead trail := by
  rw [ofSpecs, Field.mapM_make_eq_ok_iff.2 rfl]
  rfl

/-- A name that comes again is a fault. -/
theorem make_eq_error_of_repeat {fields : List Field} {name : String}
    (h : firstRepeat? [] (fields.map Field.name) = some name) :
    make engine fields lead trail = .error (.duplicateField name) := by
  unfold make
  split
  · next other hother => rw [Option.some.inj (hother.symm.trans h)]
  · next hother => exact absurd (hother.symm.trans h) (by simp)

/-- With distinct names only the engine decides. -/
theorem make_eq_match {fields : List Field} (distinct : (fields.map Field.name).Nodup) :
    make engine fields lead trail =
      match engine.refusal? (wholePattern fields lead trail).text with
      | some cause => .error (.badPattern cause)
      | none => .ok ⟨lead, fields, trail, distinct⟩ := by
  have hname : firstRepeat? [] (fields.map Field.name) = none :=
    firstRepeat?_eq_none_iff.2 ⟨distinct, fun n _ => List.not_mem_nil⟩
  unfold make
  split
  · next name h => exact absurd (h.symm.trans hname) (by simp)
  · rfl

/-- The rules cover the outcome for fields. -/
theorem builds_make (engine : Engine) (fields : List Field) (lead trail : String) :
    Builds engine (fields.map Field.pair) lead trail (make engine fields lead trail) := by
  cases hname : firstRepeat? [] (fields.map Field.name) with
  | some name =>
    obtain ⟨names, more, hnames, hdistinct, hagain⟩ := firstRepeat?_eq_some_iff.1 hname
    obtain ⟨before, rest, rfl, rfl, hrest⟩ := List.map_eq_append_iff.1 hnames
    obtain ⟨f, after, rfl, rfl, -⟩ := List.map_eq_cons_iff.1 hrest
    rw [make_eq_error_of_repeat hname]
    exact .repeated before f after rfl hdistinct hagain
  | none =>
    have hdistinct := (firstRepeat?_eq_none_iff.1 hname).1
    rw [make_eq_match hdistinct]
    split
    · next cause hrefuses => exact .refused fields rfl hdistinct hrefuses
    · next hcompiles => exact .made _ rfl rfl rfl hcompiles

/-- The rules cover the outcome. -/
theorem builds_ofSpecs (engine : Engine) (specs : List (String × String)) (lead trail : String) :
    Builds engine specs lead trail (ofSpecs engine specs lead trail) := by
  cases hfields : specs.mapM fun entry => Field.make entry.1 entry.2 with
  | ok fields =>
    obtain rfl := Field.mapM_make_eq_ok_iff.1 hfields
    rw [ofSpecs_map_pair]
    exact builds_make engine fields lead trail
  | error e =>
    have herror : ofSpecs engine specs lead trail = .error e := bind_eq_error hfields
    obtain ⟨before, ⟨name, spec⟩, after, rfl, hbefore, hfault⟩ := mapM_eq_error_iff.1 hfields
    obtain ⟨fields, hmade⟩ := exists_forall₂_of_forall_mem hbefore
    obtain rfl := Field.mapM_make_eq_ok_iff.1 (mapM_eq_ok_iff.2 hmade)
    rw [herror]
    exact .rejected fields rfl (Field.make_eq_error_iff.1 hfault)

/-- The rules cover nothing but the outcome. -/
theorem ofSpecs_eq_of_builds {outcome : Except Fault Template}
    (h : Builds engine specs lead trail outcome) : ofSpecs engine specs lead trail = outcome := by
  cases h with
  | @rejected before name spec after e pairs rejects =>
    refine bind_eq_error (mapM_eq_error_iff.2 ⟨before.map Field.pair, (name, spec), after, pairs,
      ?_, Field.make_eq_error_iff.2 rejects⟩)
    intro entry hentry
    obtain ⟨f, -, rfl⟩ := List.mem_map.1 hentry
    exact ⟨f, Field.make_eq_ok_iff.2 rfl⟩
  | repeated before f after pairs distinct again =>
    rw [pairs, ofSpecs_map_pair]
    refine make_eq_error_of_repeat (firstRepeat?_eq_some_iff.2 ⟨before.map Field.name,
      after.map Field.name, ?_, distinct, again⟩)
    rw [List.map_append, List.map_cons]
  | refused fields pairs distinct refuses =>
    rw [pairs, ofSpecs_map_pair, make_eq_match distinct, refuses]
  | made t pairs front back compiles =>
    subst front back
    rw [matcher] at compiles
    rw [pairs, ofSpecs_map_pair, make_eq_match t.nodup, compiles]

/-- **The outcome is the one that the rules describe**, and no other. -/
theorem ofSpecs_eq_iff_builds {outcome : Except Fault Template} :
    ofSpecs engine specs lead trail = outcome ↔ Builds engine specs lead trail outcome :=
  ⟨fun h => h ▸ builds_ofSpecs engine specs lead trail, ofSpecs_eq_of_builds⟩

/-- **A template finds its fields by name.** -/
theorem field?_eq_some_iff {t : Template} {name : String} {f : Field} :
    t.field? name = some f ↔ f ∈ t.fields ∧ f.name = name := by
  constructor
  · intro h
    exact ⟨List.mem_of_find?_eq_some h, by simpa using List.find?_some h⟩
  · rintro ⟨hf, rfl⟩
    cases hfound : t.field? f.name with
    | none =>
      have hnot := field?_isNone_iff.1 (by rw [hfound]; rfl)
      exact absurd (List.mem_map_of_mem hf) hnot
    | some g =>
      have hname : g.name = f.name := by simpa using List.find?_some hfound
      rw [List.inj_on_of_nodup_map t.nodup (List.mem_of_find?_eq_some hfound) hf hname]

end Template

/-! ## Drafts -/

namespace Draft

/-- A call that gives a draft one more part. -/
inductive Call
  /-- A field, by its name and specifier. -/
  | spec (name spec : String)
  /-- A field that has been made before. -/
  | field (f : Field)
  /-- The text in front of the fields. -/
  | lead (text : String)
  /-- The text behind the fields. -/
  | trail (text : String)

namespace Call

/-- The entry that a call adds, if it adds one. -/
def entry? : Call → Option (Field ⊕ (String × String))
  | .spec name specifier => some (.inr (name, specifier))
  | .field f => some (.inl f)
  | _ => none

/-- The leading text that a call gives, if it gives one. -/
def lead? : Call → Option String
  | .lead text => some text
  | _ => none

/-- The trailing text that a call gives, if it gives one. -/
def trail? : Call → Option String
  | .trail text => some text
  | _ => none

/-- The call for a field that may have been made before. -/
def ofField (ready : Bool) (f : Field) : Call :=
  if ready then .field f else .spec f.name f.spec

end Call

/-- The draft after a call. -/
def apply (d : Draft) : Call → Draft
  | .spec name spec => d.addSpec name spec
  | .field f => d.addField f
  | .lead text => d.withLead text
  | .trail text => d.withTrail text

/-- The draft after calls, one after another. -/
def run (d : Draft) (calls : List Call) : Draft :=
  calls.foldl apply d

variable {d : Draft} {calls : List Call} {specs : List (String × String)} {lead trail : String}

/-- A call adds its entry to the end. -/
theorem entries_apply (d : Draft) (call : Call) :
    (d.apply call).entries = d.entries ++ call.entry?.toList := by
  cases call <;> simp [apply, addSpec, addField, withLead, withTrail, Call.entry?]

/-- A call for the leading text replaces it. -/
theorem lead_apply (d : Draft) (call : Call) : (d.apply call).lead = call.lead?.getD d.lead := by
  cases call <;> rfl

/-- A call for the trailing text replaces it. -/
theorem trail_apply (d : Draft) (call : Call) :
    (d.apply call).trail = call.trail?.getD d.trail := by
  cases call <;> rfl

/-- The last text that calls give is the last one of the rest, or else that of the first call. -/
theorem getLast?_filterMap_cons (text? : Call → Option String) (call : Call) (calls : List Call)
    (text : String) : ((call :: calls).filterMap text?).getLast?.getD text =
      (calls.filterMap text?).getLast?.getD ((text? call).getD text) := by
  cases h : text? call with
  | none => rw [List.filterMap_cons_none h, Option.getD_none]
  | some other => rw [List.filterMap_cons_some h, List.getLast?_cons, Option.getD_some,
      Option.getD_some]

/-- **Calls add their entries in order.** -/
theorem entries_run (d : Draft) (calls : List Call) :
    (d.run calls).entries = d.entries ++ calls.filterMap Call.entry? := by
  induction calls generalizing d with
  | nil => simp [run]
  | cons call rest ih =>
    have hrest : (d.run (call :: rest)).entries =
        (d.apply call).entries ++ rest.filterMap Call.entry? := ih (d.apply call)
    rw [hrest, entries_apply, List.append_assoc]
    cases h : call.entry? <;> simp [h]

/-- A text that each call replaces, if it gives one, is the last one that was given. -/
theorem text_run {get : Draft → String} {text? : Call → Option String}
    (step : ∀ d call, get (d.apply call) = (text? call).getD (get d)) (d : Draft)
    (calls : List Call) : get (d.run calls) = (calls.filterMap text?).getLast?.getD (get d) := by
  induction calls generalizing d with
  | nil => rfl
  | cons call rest ih =>
    have hrest : get (d.run (call :: rest)) =
        (rest.filterMap text?).getLast?.getD (get (d.apply call)) := ih (d.apply call)
    rw [hrest, step, getLast?_filterMap_cons]

/-- **The last call for the leading text gives it.** -/
theorem lead_run (d : Draft) (calls : List Call) :
    (d.run calls).lead = (calls.filterMap Call.lead?).getLast?.getD d.lead :=
  text_run lead_apply d calls

/-- **The last call for the trailing text gives it.** -/
theorem trail_run (d : Draft) (calls : List Call) :
    (d.run calls).trail = (calls.filterMap Call.trail?).getLast?.getD d.trail :=
  text_run trail_apply d calls

/-- An entry of a draft stands for a pair: it is the pair, or the field that the pair makes. -/
inductive StandsFor : Field ⊕ (String × String) → String × String → Prop
  /-- A pair stands for itself. -/
  | spec (pair : String × String) : StandsFor (.inr pair) pair
  /-- A field stands for the pair that makes it. -/
  | field (f : Field) : StandsFor (.inl f) f.pair

/-- What stands for a pair makes what the pair makes. -/
theorem StandsFor.makeField_eq {entry : Field ⊕ (String × String)} {pair : String × String}
    (h : StandsFor entry pair) : makeField entry = Field.make pair.1 pair.2 := by
  cases h with
  | spec pair => rfl
  | field f => exact (Field.make_eq_ok_iff.2 rfl).symm

/-- **A draft has the outcome for the pairs that its entries stand for.** -/
theorem build_eq_ofSpecs (engine : Engine) (h : List.Forall₂ StandsFor d.entries specs) :
    d.build engine = Template.ofSpecs engine specs d.lead d.trail := by
  have hmake : d.entries.mapM makeField = specs.mapM fun entry => Field.make entry.1 entry.2 := by
    generalize d.entries = entries at h
    induction h with
    | nil => rfl
    | cons hentry _ ih => rw [List.mapM_cons, List.mapM_cons, hentry.makeField_eq, ih]
  rw [build, Template.ofSpecs, hmake]

/-- The calls supply the pairs in order, each as a pair or as a field, and the two texts. A text
that is not given is empty, and one that is given again is replaced. -/
structure Supplies (calls : List Call) (specs : List (String × String)) (lead trail : String) :
    Prop where
  entries : List.Forall₂ StandsFor (calls.filterMap Call.entry?) specs
  lead_eq : (calls.filterMap Call.lead?).getLast?.getD "" = lead
  trail_eq : (calls.filterMap Call.trail?).getLast?.getD "" = trail

/-- **A draft has the outcome for what its calls supply.** -/
theorem build_run (engine : Engine) (h : Supplies calls specs lead trail) :
    (empty.run calls).build engine = Template.ofSpecs engine specs lead trail := by
  have hstands : List.Forall₂ StandsFor (empty.run calls).entries specs := by
    rw [entries_run]
    exact h.entries
  have hbuild := build_eq_ofSpecs engine hstands
  rwa [lead_run, trail_run, show empty.lead = "" from rfl, show empty.trail = "" from rfl,
    h.lead_eq, h.trail_eq] at hbuild

/-- Calls for the two texts and then one call for each pair supply them. -/
theorem supplies_of_forall₂ {adding : List Call} (lead trail : String)
    (h : List.Forall₂ (fun call pair => ∃ entry, call.entry? = some entry ∧ StandsFor entry pair)
      adding specs) : Supplies (.lead lead :: .trail trail :: adding) specs lead trail := by
  have htexts : ∀ call ∈ adding, call.lead? = none ∧ call.trail? = none := by
    refine forall_mem_of_forall₂ (h.imp ?_)
    rintro call pair ⟨entry, hentry, -⟩
    cases call with
    | spec name spec => exact ⟨rfl, rfl⟩
    | field f => exact ⟨rfl, rfl⟩
    | lead text => simp [Call.entry?] at hentry
    | trail text => simp [Call.entry?] at hentry
  have hlead : adding.filterMap Call.lead? = [] :=
    List.filterMap_eq_nil_iff.2 fun call hcall => (htexts call hcall).1
  have htrail : adding.filterMap Call.trail? = [] :=
    List.filterMap_eq_nil_iff.2 fun call hcall => (htexts call hcall).2
  refine ⟨?_, ?_, ?_⟩
  · change List.Forall₂ StandsFor (adding.filterMap Call.entry?) specs
    clear hlead htrail htexts
    induction h with
    | nil => exact .nil
    | cons hcall _ ih =>
      obtain ⟨entry, hentry, hstands⟩ := hcall
      rw [List.filterMap_cons_some hentry]
      exact .cons hstands ih
  · rw [getLast?_filterMap_cons, getLast?_filterMap_cons, hlead]
    rfl
  · rw [getLast?_filterMap_cons, getLast?_filterMap_cons, htrail]
    rfl

/-- The calls that add pairs add what stands for them. -/
theorem forall₂_entry?_spec (specs : List (String × String)) :
    List.Forall₂ (fun call pair => ∃ entry, call.entry? = some entry ∧ StandsFor entry pair)
      (specs.map fun pair => Call.spec pair.1 pair.2) specs := by
  rw [List.forall₂_map_left_iff, List.forall₂_same]
  exact fun pair _ => ⟨.inr pair, rfl, .spec pair⟩

/-- The calls that add fields, some of them made before, add what stands for their pairs. -/
theorem forall₂_entry?_ofField (ready : Nat → Bool) (fields : List Field) :
    List.Forall₂ (fun call pair => ∃ entry, call.entry? = some entry ∧ StandsFor entry pair)
      (fields.mapIdx fun i f => Call.ofField (ready i) f) (fields.map Field.pair) := by
  induction fields generalizing ready with
  | nil => exact .nil
  | cons f rest ih =>
    rw [List.mapIdx_cons, List.map_cons]
    refine .cons ?_ (ih fun i => ready (i + 1))
    cases hready : ready 0 with
    | true => exact ⟨.inl f, rfl, .field f⟩
    | false => exact ⟨.inr f.pair, rfl, .spec f.pair⟩

end Draft

/-! ## All ways -/

namespace Template

/-- **All ways to build a template have one outcome.** A draft has the outcome for what its calls
supply, in whatever order: so if the texts and then the pairs are given, and also if all pairs are
fields and any of these are made before they are added. A schema has the outcome for its pairs and
texts. The outcome is the one that the rules describe. With a documented engine, pairs that are
fields with distinct names make a template with these fields and texts exactly if the compiled
pattern is within the limit, and else the limit is told. The names of a template are distinct, and
it finds its fields by name. -/
theorem all_ways_agree (engine : Engine) (specs : List (String × String)) (lead trail : String) :
    (∀ calls, Draft.Supplies calls specs lead trail →
      (Draft.empty.run calls).build engine = ofSpecs engine specs lead trail) ∧
    (Draft.empty.run (.lead lead :: .trail trail ::
      specs.map fun pair => .spec pair.1 pair.2)).build engine = ofSpecs engine specs lead trail ∧
    (∀ fields : List Field, fields.map Field.pair = specs → ∀ ready : Nat → Bool,
      (Draft.empty.run (.lead lead :: .trail trail ::
        fields.mapIdx fun i f => .ofField (ready i) f)).build engine =
          ofSpecs engine specs lead trail) ∧
    Schema.build engine ⟨lead, trail, specs⟩ = ofSpecs engine specs lead trail ∧
    ofSchema engine ⟨lead, trail, specs⟩ = ofSpecs engine specs lead trail ∧
    (∀ outcome, ofSpecs engine specs lead trail = outcome ↔
      Builds engine specs lead trail outcome) ∧
    (engine.Documented → ∀ fields : List Field, fields.map Field.pair = specs →
      (fields.map Field.name).Nodup →
        let bytes := engine.size (wholePattern fields lead trail).text
        (bytes ≤ Engine.sizeLimit → ∃ t, ofSpecs engine specs lead trail = .ok t ∧
          t.fields = fields ∧ t.lead = lead ∧ t.trail = trail) ∧
        (Engine.sizeLimit < bytes → ofSpecs engine specs lead trail =
          .error (.badPattern (.tooLarge Engine.sizeLimit)))) ∧
    ∀ t, ofSpecs engine specs lead trail = .ok t →
      t.names.Nodup ∧ ∀ name f, t.field? name = some f ↔ f ∈ t.fields ∧ f.name = name := by
  refine ⟨fun calls h => Draft.build_run engine h, ?_, ?_, rfl, rfl,
    fun outcome => ofSpecs_eq_iff_builds, ?_,
    fun t _ => ⟨t.nodup, fun name f => field?_eq_some_iff⟩⟩
  · exact Draft.build_run engine
      (Draft.supplies_of_forall₂ lead trail (Draft.forall₂_entry?_spec specs))
  · rintro fields rfl ready
    exact Draft.build_run engine
      (Draft.supplies_of_forall₂ lead trail (Draft.forall₂_entry?_ofField ready fields))
  · rintro documented fields rfl distinct bytes
    constructor
    · intro within
      have hcompiles := documented.refusal?_eq_none within
      have hmade : Builds engine (fields.map Field.pair) lead trail
          (.ok ⟨lead, fields, trail, distinct⟩) := .made _ rfl rfl rfl hcompiles
      exact ⟨_, ofSpecs_eq_of_builds hmade, rfl, rfl, rfl⟩
    · intro beyond
      exact ofSpecs_eq_of_builds
        (.refused fields rfl distinct (documented.refusal?_eq_some beyond))

/-- The specifier of a flag. -/
theorem parse_flag : Format.parse "bool" = .ok .bool := by
  rfl

/-- A number with a flag. -/
def flaggedFields : List Field :=
  [⟨"k", "5int", .int (some 5), by decide, by rfl⟩, ⟨"done", "bool", .bool, by decide, parse_flag⟩]

/-- An engine whose compiled patterns take a thousand times the bytes of their notation. -/
def roomyEngine : Engine :=
  .bySize fun text => 1000 * text.utf8ByteSize

/-- A small pattern is within the limit, so its fields make a template. -/
theorem all_ways_agree_flagged :
    roomyEngine.Documented ∧ flaggedFields.map Field.pair = [("k", "5int"), ("done", "bool")] ∧
      (flaggedFields.map Field.name).Nodup ∧
      roomyEngine.size (wholePattern flaggedFields "run_" ".csv").text ≤ Engine.sizeLimit ∧
      ∃ t, ofSpecs roomyEngine [("k", "5int"), ("done", "bool")] "run_" ".csv" = .ok t ∧
        t.fields = flaggedFields ∧ t.lead = "run_" ∧ t.trail = ".csv" := by
  have documented : roomyEngine.Documented := Engine.documented_bySize _
  have distinct : (flaggedFields.map Field.name).Nodup := by decide
  have within : roomyEngine.size (wholePattern flaggedFields "run_" ".csv").text ≤
      Engine.sizeLimit := by
    decide +kernel
  obtain ⟨-, -, -, -, -, -, hlimit, -⟩ :=
    all_ways_agree roomyEngine [("k", "5int"), ("done", "bool")] "run_" ".csv"
  exact ⟨documented, rfl, distinct, within, (hlimit documented flaggedFields rfl distinct).1 within⟩

end Template

end TypedNames
