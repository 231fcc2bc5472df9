import Mathlib.Data.List.Forall2
import TypedNames.Proofs.Format.ReadBack
import TypedNames.Template.Split

/-!
# Writing and reading field by field

A template writes a record by writing the value of each field and reads a name by reading the token
of each field. This module says so with relations between lists, where the definitions go through
the fields one after another and stop at the first fault.

## Main definitions

* `Template.Accepted` — tokens match the patterns of fields.
* `Template.Tokenizes` — the fields write the values of a record as tokens.
* `Template.Reads` — the fields read tokens as entries.

## Main results

* `Template.write_eq_ok_iff` — when a record has a name, and which.
* `Template.read_eq_ok_iff`, `Template.read_eq_error_iff` — what a name is read as, once its tokens
  are known.
* `Template.isSplit_iff` — splits, field by field.
-/

set_option autoImplicit false

namespace TypedNames

section FirstFault

variable {ε α β : Type}

/-- Two steps succeed when the first one does and the second one does with its result. -/
theorem bind_eq_ok_iff {x : Except ε α} {f : α → Except ε β} {b : β} :
    x >>= f = .ok b ↔ ∃ a, x = .ok a ∧ f a = .ok b := by
  cases x with
  | error e => simp [bind, Except.bind]
  | ok a => simp [bind, Except.bind]

/-- Two steps fail when the first one does. -/
theorem bind_eq_error {x : Except ε α} {f : α → Except ε β} {e : ε} (h : x = .error e) :
    x >>= f = .error e := by
  rw [h]
  rfl

/-- Going through a list succeeds with the results of its members. -/
theorem mapM_eq_ok_iff {f : α → Except ε β} {xs : List α} {ys : List β} :
    xs.mapM f = .ok ys ↔ List.Forall₂ (fun x y => f x = .ok y) xs ys := by
  induction xs generalizing ys with
  | nil =>
    rw [List.mapM_nil, List.forall₂_nil_left_iff]
    exact Except.ok.injEq [] ys ▸ eq_comm
  | cons x rest ih =>
    rw [List.mapM_cons, List.forall₂_cons_left_iff, bind_eq_ok_iff]
    constructor
    · rintro ⟨y, hx, h⟩
      obtain ⟨more, hrest, h⟩ := bind_eq_ok_iff.1 h
      exact ⟨y, more, hx, ih.1 hrest, (Except.ok.inj h).symm⟩
    · rintro ⟨y, more, hx, hrest, rfl⟩
      exact ⟨y, hx, bind_eq_ok_iff.2 ⟨more, ih.2 hrest, rfl⟩⟩

/-- Going through a list fails with the fault of the first member that has one. -/
theorem mapM_eq_error_iff {f : α → Except ε β} {xs : List α} {e : ε} :
    xs.mapM f = .error e ↔ ∃ before x after, xs = before ++ x :: after ∧
      (∀ y ∈ before, ∃ z, f y = .ok z) ∧ f x = .error e := by
  induction xs with
  | nil => simp [pure, Except.pure]
  | cons x rest ih =>
    rw [List.mapM_cons]
    constructor
    · intro h
      cases hx : f x with
      | error e' =>
        have e' : e' = e := by simpa [hx, bind, Except.bind] using h
        exact ⟨[], x, rest, rfl, by simp, e' ▸ hx⟩
      | ok y =>
        have hrest : rest.mapM f = .error e := by
          cases hrest : rest.mapM f with
          | error e' => simpa [hx, hrest, bind, Except.bind] using h
          | ok more => simp [hx, hrest, bind, Except.bind, pure, Except.pure] at h
        obtain ⟨before, x', after, rfl, hbefore, hx'⟩ := ih.1 hrest
        refine ⟨x :: before, x', after, rfl, ?_, hx'⟩
        intro z hz
        rcases List.mem_cons.1 hz with rfl | hz
        · exact ⟨y, hx⟩
        · exact hbefore z hz
    · rintro ⟨before, x', after, hxs, hbefore, hx'⟩
      cases before with
      | nil =>
        obtain ⟨rfl, rfl⟩ := List.cons.inj hxs
        simp [hx', bind, Except.bind]
      | cons y before =>
        obtain ⟨rfl, rfl⟩ := List.cons.inj hxs
        obtain ⟨z, hz⟩ := hbefore x List.mem_cons_self
        have hrest := ih.2 ⟨before, x', after, rfl,
          fun y hy => hbefore y (List.mem_cons_of_mem _ hy), hx'⟩
        simp only [hz, hrest, bind, Except.bind]

end FirstFault

section Pointwise

variable {α β : Type} {R S : α → β → Prop} {xs : List α} {ys : List β}

/-- What holds at each place holds for each member. -/
theorem forall_mem_of_forall₂ {P : α → Prop} (h : List.Forall₂ (fun x _ => P x) xs ys) :
    ∀ x ∈ xs, P x := by
  induction h with
  | nil => exact fun x hx => absurd hx List.not_mem_nil
  | cons hx _ ih => exact List.forall_mem_cons.2 ⟨hx, ih⟩

/-- A relation at each place may be weakened using that the members are there. -/
theorem forall₂_imp_of_mem (h : List.Forall₂ R xs ys) (imp : ∀ x ∈ xs, ∀ y, R x y → S x y) :
    List.Forall₂ S xs ys := by
  induction h with
  | nil => exact .nil
  | cons hxy _ ih =>
    exact .cons (imp _ List.mem_cons_self _ hxy)
      (ih fun x hx => imp x (List.mem_cons_of_mem _ hx))

/-- What two lists have to do with a third one they have to do with each other. -/
theorem forall₂_of_forall₂ {γ δ : Type} {T : α → γ → Prop} {U : α → δ → Prop} {Q : γ → δ → Prop}
    {us : List γ} {vs : List δ} (h : List.Forall₂ T xs us) (h' : List.Forall₂ U xs vs)
    (imp : ∀ x ∈ xs, ∀ u v, T x u → U x v → Q u v) : List.Forall₂ Q us vs := by
  induction h generalizing vs with
  | nil =>
    obtain rfl := List.forall₂_nil_left_iff.1 h'
    exact .nil
  | cons hx _ ih =>
    obtain ⟨v, vs, hv, hvs, rfl⟩ := List.forall₂_cons_left_iff.1 h'
    exact .cons (imp _ List.mem_cons_self _ _ hx hv)
      (ih hvs fun x hx => imp x (List.mem_cons_of_mem _ hx))

/-- What exists for each place exists as a list. -/
theorem exists_forall₂_zip {γ : Type} {T : α × β → γ → Prop} (h : List.Forall₂ R xs ys)
    (ex : ∀ x y, R x y → ∃ z, T (x, y) z) : ∃ zs, List.Forall₂ T (xs.zip ys) zs := by
  induction h with
  | nil => exact ⟨[], .nil⟩
  | cons hxy _ ih =>
    obtain ⟨z, hz⟩ := ex _ _ hxy
    obtain ⟨zs, hzs⟩ := ih
    exact ⟨z :: zs, .cons hz hzs⟩

/-- What stands in one of two lists that are related place by place is related to a member of the
other. -/
theorem exists_mem_of_forall₂ (h : List.Forall₂ R xs ys) : ∀ x ∈ xs, ∃ y ∈ ys, R x y := by
  induction h with
  | nil => exact fun x hx => absurd hx List.not_mem_nil
  | @cons a b _ _ hab _ ih =>
    intro x hx
    rcases List.mem_cons.1 hx with rfl | hx
    · exact ⟨b, List.mem_cons_self, hab⟩
    · obtain ⟨y, hy, hxy⟩ := ih x hx
      exact ⟨y, List.mem_cons_of_mem b hy, hxy⟩

/-- What exists for each member exists as a list. -/
theorem exists_forall₂_of_forall_mem (h : ∀ x ∈ xs, ∃ y, R x y) : ∃ ys, List.Forall₂ R xs ys := by
  induction xs with
  | nil => exact ⟨[], .nil⟩
  | cons x rest ih =>
    obtain ⟨y, hy⟩ := h x List.mem_cons_self
    obtain ⟨more, hmore⟩ := ih fun z hz => h z (List.mem_cons_of_mem x hz)
    exact ⟨y :: more, .cons hy hmore⟩

end Pointwise

/-! ## Records -/

namespace Record

/-- A new name goes to the end. -/
theorem put_of_notMem {name : String} (value : Value) {entries : List (String × Value)}
    (h : name ∉ entries.map Prod.fst) : put name value entries = entries ++ [(name, value)] := by
  induction entries with
  | nil => rfl
  | cons entry rest ih =>
    rw [List.map_cons, List.mem_cons, not_or] at h
    rw [put, if_neg (Ne.symm h.1), ih h.2]
    rfl

/-- Pairs with new and distinct names are put behind the entries of a record. -/
theorem entries_foldl_insert {pairs : List (String × Value)} {r : Record}
    (h : (r.entries.map Prod.fst ++ pairs.map Prod.fst).Nodup) :
    (pairs.foldl (fun r entry => r.insert entry.1 entry.2) r).entries = r.entries ++ pairs := by
  induction pairs generalizing r with
  | nil => simp
  | cons entry rest ih =>
    have hnew : entry.1 ∉ r.entries.map Prod.fst := by
      intro hmem
      exact (List.nodup_append.1 h).2.2 _ hmem _ (by simp) rfl
    have hput : (r.insert entry.1 entry.2).entries = r.entries ++ [entry] :=
      put_of_notMem entry.2 hnew
    rw [List.foldl_cons, ih, hput, List.append_assoc, List.singleton_append]
    rw [hput]
    simpa using h

/-- Pairs with distinct names are the entries of the record that they make. -/
theorem entries_ofList {pairs : List (String × Value)} (h : (pairs.map Prod.fst).Nodup) :
    (ofList pairs).entries = pairs :=
  entries_foldl_insert (r := empty) h

/-- A record gives to a name the value of its entry. -/
theorem get?_eq_some_iff {r : Record} {name : String} {value : Value} :
    r.get? name = some value ↔ (name, value) ∈ r.entries := by
  obtain ⟨entries, nodup⟩ := r
  show entries.lookup name = some value ↔ (name, value) ∈ entries
  induction entries with
  | nil => simp
  | cons entry rest ih =>
    obtain ⟨key, v⟩ := entry
    rw [List.map_cons, List.nodup_cons] at nodup
    rw [lookup_cons_eq_ite, List.mem_cons, Prod.mk.injEq]
    by_cases e : name = key
    · rw [if_pos e]
      have hrest : (name, value) ∉ rest := fun hmem =>
        nodup.1 (List.mem_map.2 ⟨(name, value), hmem, e⟩)
      constructor
      · intro h
        exact .inl ⟨e, (Option.some.inj h).symm⟩
      · rintro (⟨-, rfl⟩ | hmem)
        · rfl
        · exact absurd hmem hrest
    · rw [if_neg e, ih nodup.2]
      simp [e]

end Record

/-! ## Templates -/

namespace Template

variable {t : Template}

/-- The tokens match the patterns of the fields, one by one. -/
abbrev Accepted (fields : List Field) (tokens : List (List Char)) : Prop :=
  List.Forall₂ (fun f token => f.pattern.Matches token) fields tokens

/-- The fields write the values of the record as the tokens. -/
def Tokenizes (t : Template) (r : Record) (tokens : List (List Char)) : Prop :=
  List.Forall₂ (fun f token => ∃ v, r.get? f.name = some v ∧ f.write v = .ok token)
    t.fields tokens

/-- The fields read the tokens as the values of the entries, which have the names of the fields. -/
def Reads (t : Template) (tokens : List (List Char)) (entries : List (String × Value)) : Prop :=
  List.Forall₂ (fun pair entry => entry.1 = pair.1.name ∧ pair.1.read pair.2 = .ok entry.2)
    (t.fields.zip tokens) entries

/-- A template has a field of a name exactly when the name is one of its names. -/
theorem field?_isNone_iff {name : String} : (t.field? name).isNone = true ↔ name ∉ t.names := by
  rw [field?, Option.isNone_iff_eq_none, List.find?_eq_none, names, List.mem_map]
  simp

/-- No value is missing exactly when the record gives one to each field. -/
theorem missing_eq_nil_iff {r : Record} : (t.names.filter fun n => !r.contains n) = [] ↔
    ∀ f ∈ t.fields, ∃ v, r.get? f.name = some v := by
  rw [List.filter_eq_nil_iff, names, List.forall_mem_map]
  simp only [Record.contains, Bool.not_eq_true', Bool.not_eq_false, Option.isSome_iff_exists]

/-- No value is unknown exactly when the names of the record are names of fields. -/
theorem unknown_eq_nil_iff {r : Record} : (r.names.filter fun n => (t.field? n).isNone) = [] ↔
    ∀ n ∈ r.names, n ∈ t.names := by
  rw [List.filter_eq_nil_iff]
  simp only [field?_isNone_iff, not_not]

/-- A record has a name exactly when it gives values to the fields and to nothing else and the
fields write their values; the name then shows the tokens. -/
theorem write_eq_ok_iff {r : Record} {name : String} :
    t.write r = .ok name ↔ (∀ n ∈ r.names, n ∈ t.names) ∧
      ∃ tokens, t.Tokenizes r tokens ∧ String.ofList (t.spell tokens) = name := by
  unfold write
  dsimp only
  constructor
  · intro h
    split at h
    · simp at h
    · split at h
      · simp at h
      · next hknown =>
        obtain ⟨tokens, htokens, h⟩ := bind_eq_ok_iff.1 h
        refine ⟨unknown_eq_nil_iff.1 (not_not.1 hknown), tokens, ?_, Except.ok.inj h⟩
        refine (mapM_eq_ok_iff.1 htokens).imp fun f token htoken => ?_
        split at htoken
        · next v hv => exact ⟨v, hv, htoken⟩
        · simp at htoken
  · rintro ⟨hnames, tokens, htokens, rfl⟩
    have hpresent : ∀ f ∈ t.fields, ∃ v, r.get? f.name = some v := by
      refine forall_mem_of_forall₂ (htokens.imp ?_)
      rintro f token ⟨v, hv, -⟩
      exact ⟨v, hv⟩
    rw [if_neg (not_not.2 (missing_eq_nil_iff.2 hpresent)),
      if_neg (not_not.2 (unknown_eq_nil_iff.2 hnames)), bind_eq_ok_iff]
    refine ⟨tokens, mapM_eq_ok_iff.2 (htokens.imp ?_), rfl⟩
    rintro f token ⟨v, hv, hwrite⟩
    simp only [hv, hwrite]

/-- A record with the names of the fields is written with the fault of the first field that has
one. -/
theorem write_eq_error_of_first {r : Record} {e : Fault} {before after : List Field} {f : Field}
    {v : Value} (names : r.names = t.names) (fields : t.fields = before ++ f :: after)
    (ok : ∀ g ∈ before, ∃ v token, r.get? g.name = some v ∧ g.write v = .ok token)
    (value : r.get? f.name = some v) (fault : f.write v = .error e) : t.write r = .error e := by
  have hpresent : ∀ g ∈ t.fields, ∃ v, r.get? g.name = some v := by
    intro g hg
    have hname : g.name ∈ r.names := names ▸ List.mem_map_of_mem hg
    obtain ⟨entry, hentry, hname⟩ := List.mem_map.1 hname
    exact ⟨entry.2, Record.get?_eq_some_iff.2 (hname ▸ hentry)⟩
  unfold write
  dsimp only
  rw [if_neg (not_not.2 (missing_eq_nil_iff.2 hpresent)),
    if_neg (not_not.2 (unknown_eq_nil_iff.2 fun n hn => names ▸ hn))]
  apply bind_eq_error
  refine mapM_eq_error_iff.2 ⟨before, f, after, fields, ?_, by simp only [value, fault]⟩
  intro g hg
  obtain ⟨w, token, hw, hwrite⟩ := ok g hg
  exact ⟨token, by simp only [hw, hwrite]⟩

/-- A split is a token for each field that its pattern matches in full, with which the template
spells the text. -/
theorem isSplit_iff {text : List Char} {tokens : List (List Char)} :
    t.IsSplit text tokens ↔ Accepted t.fields tokens ∧ t.spell tokens = text := by
  rw [Accepted, List.forall₂_iff_zip]
  constructor
  · intro h
    exact ⟨⟨h.length_eq.symm, fun hmem => h.matchesToken _ hmem⟩, h.spell_eq⟩
  · rintro ⟨⟨hlen, hmatches⟩, hspell⟩
    exact ⟨hlen.symm, fun pair hmem => hmatches hmem, hspell⟩

/-- A name is the row of the fields between the leading and the trailing text. -/
theorem spell_eq_body (t : Template) (tokens : List (List Char)) :
    t.spell tokens = t.lead.toList ++ body [] t.fields tokens ++ t.trail.toList := by
  rw [spell, body_eq_intercalate]

/-- Two names are the same exactly when their rows are. -/
theorem spell_inj {xs ys : List (List Char)} :
    t.spell xs = t.spell ys ↔ body [] t.fields xs = body [] t.fields ys := by
  rw [spell_eq_body, spell_eq_body, List.append_left_inj, List.append_right_inj]

/-- The entries that the fields read have the names of the fields in order. -/
theorem Reads.names_eq {tokens : List (List Char)} {entries : List (String × Value)}
    (hlen : tokens.length = t.fields.length) (h : t.Reads tokens entries) :
    entries.map Prod.fst = t.names := by
  have hfields : (t.fields.zip tokens).map Prod.fst = t.fields :=
    List.map_fst_zip (Nat.le_of_eq hlen.symm)
  have hnames : List.Forall₂ (fun name name' => name = name') (entries.map Prod.fst)
      (((t.fields.zip tokens).map Prod.fst).map Field.name) := by
    rw [List.forall₂_map_left_iff, List.forall₂_map_right_iff, List.forall₂_map_right_iff]
    exact (h.imp fun pair entry hentry => hentry.1).flip
  rw [hfields, List.forall₂_eq_eq_eq] at hnames
  exact hnames

/-- The entries of the tokens, read one after another. -/
theorem mapM_read_eq_ok_iff {tokens : List (List Char)} {entries : List (String × Value)} :
    ((t.fields.zip tokens).mapM fun pair => do
      let value ← pair.1.read pair.2
      return (pair.1.name, value)) = .ok entries ↔ t.Reads tokens entries := by
  rw [mapM_eq_ok_iff, Reads]
  have hpair (pair : Field × List Char) (entry : String × Value) :
      (do
        let value ← pair.1.read pair.2
        return (pair.1.name, value) : Except Fault (String × Value)) = .ok entry ↔
        entry.1 = pair.1.name ∧ pair.1.read pair.2 = .ok entry.2 := by
    rw [bind_eq_ok_iff]
    constructor
    · rintro ⟨value, hvalue, h⟩
      obtain rfl := Except.ok.inj h
      exact ⟨rfl, hvalue⟩
    · rintro ⟨hname, hvalue⟩
      exact ⟨entry.2, hvalue, by rw [← hname]; rfl⟩
  simp only [hpair]

/-- A name whose tokens are known is read as a record exactly when the fields read the tokens as
its entries. -/
theorem read_eq_ok_iff {name : String} {tokens : List (List Char)} {r : Record}
    (h : t.tokens? name.toList = some tokens) :
    t.read name = .ok r ↔ t.Reads tokens r.entries := by
  have hlen : tokens.length = t.fields.length := (isSplit_of_tokens? h).length_eq
  rw [read, h]
  dsimp only
  rw [bind_eq_ok_iff]
  constructor
  · rintro ⟨entries, hentries, hr⟩
    obtain rfl := Except.ok.inj hr
    have hreads := mapM_read_eq_ok_iff.1 hentries
    have hnodup : (entries.map Prod.fst).Nodup := by
      rw [hreads.names_eq hlen]
      exact t.nodup
    rwa [Record.entries_ofList hnodup]
  · intro hreads
    refine ⟨r.entries, mapM_read_eq_ok_iff.2 hreads, ?_⟩
    exact congrArg Except.ok (Record.ext (Record.entries_ofList r.nodup))

/-- A name whose tokens are known is read with the fault of the first token that has one. -/
theorem read_eq_error_iff {name : String} {tokens : List (List Char)} {e : Fault}
    (h : t.tokens? name.toList = some tokens) :
    t.read name = .error e ↔ ∃ before f token after,
      t.fields.zip tokens = before ++ (f, token) :: after ∧
        (∀ pair ∈ before, ∃ v, pair.1.read pair.2 = .ok v) ∧ f.read token = .error e := by
  have hpair (pair : Field × List Char) : (∃ entry, (do
      let value ← pair.1.read pair.2
      return (pair.1.name, value) : Except Fault (String × Value)) = .ok entry) ↔
        ∃ v, pair.1.read pair.2 = .ok v := by
    cases pair.1.read pair.2 <;> simp [bind, Except.bind, pure, Except.pure]
  have hfault (f : Field) (token : List Char) : (do
      let value ← f.read token
      return (f.name, value) : Except Fault (String × Value)) = .error e ↔
        f.read token = .error e := by
    cases f.read token <;> simp [bind, Except.bind, pure, Except.pure]
  have hread : t.read name = .error e ↔ ((t.fields.zip tokens).mapM fun pair => do
      let value ← pair.1.read pair.2
      return (pair.1.name, value)) = .error e := by
    rw [read, h]
    dsimp only
    generalize ((t.fields.zip tokens).mapM fun pair => do
      let value ← pair.1.read pair.2
      return (pair.1.name, value) : Except Fault (List (String × Value))) = entries
    cases entries <;> simp [bind, Except.bind, pure, Except.pure]
  rw [hread, mapM_eq_error_iff]
  simp only [Prod.exists, hpair, hfault]

/-- A field never answers that the whole name does not match. -/
theorem read_ne_noMatch (f : Field) (token : List Char) (name pattern : String) :
    f.read token ≠ .error (.noMatch name pattern) := by
  rw [Field.read]
  cases f.format.read token <;> simp [Except.mapError]

/-- The values that the record gives to the fields fit their formats. -/
def Fits (t : Template) (r : Record) : Prop :=
  ∀ f ∈ t.fields, ∀ v ∈ r.get? f.name, f.format.fits v = true

instance (t : Template) (r : Record) : Decidable (t.Fits r) :=
  inferInstanceAs (Decidable (∀ f ∈ t.fields, ∀ v ∈ r.get? f.name, f.format.fits v = true))

/-- No text that the record gives to a field with padding has zeros of its own. -/
def ZeroFree (t : Template) (r : Record) : Prop :=
  ∀ f ∈ t.fields, ∀ v ∈ r.get? f.name, f.format.zeroFree v = true

instance (t : Template) (r : Record) : Decidable (t.ZeroFree r) :=
  inferInstanceAs (Decidable (∀ f ∈ t.fields, ∀ v ∈ r.get? f.name, f.format.zeroFree v = true))

/-- Written tokens match the patterns of the fields exactly when the record fits. -/
theorem accepted_iff_fits {r : Record} {tokens : List (List Char)} (h : t.Tokenizes r tokens) :
    Accepted t.fields tokens ↔ t.Fits r := by
  constructor
  · intro haccepted
    refine forall_mem_of_forall₂ (h.mp ?_ haccepted)
    rintro f token ⟨v, hv, hwrite⟩ hmatches v' hv'
    obtain rfl := Option.some.inj (hv.symm.trans hv')
    exact (Format.matches_iff_fits f.inRange (Field.write_eq_ok_iff.1 hwrite)).1 hmatches
  · intro hfits
    apply forall₂_imp_of_mem h
    rintro f hf token ⟨v, hv, hwrite⟩
    exact (Format.matches_iff_fits f.inRange (Field.write_eq_ok_iff.1 hwrite)).2 (hfits f hf v hv)

end Template

end TypedNames
