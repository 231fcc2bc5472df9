import TypedNames.Proofs.Template.RoundTrip
import TypedNames.Proofs.Template.Separator

/-!
# Records with the same name

Two records whose values fit and hold no zeros that padding could have put there have the same name
although they differ only if two of their texts were taken apart at a wrong underscore. This module
says exactly when that happens, and that it does happen for every template with two fields of texts
without a width that only words stand between.

## Main definitions

* `Template.Agree` — the fields show the values of two records alike.
* `Template.Confused` — the texts of two fields are taken apart differently.
* `Cell` — a field with a value and its token.
* `Cell.withTexts` — a row of values with two texts among them.

## Main results

* `Template.tokens_eq_iff_agree` — the same tokens are written exactly for records that agree.
* `Template.confused_of_not_agree` — records with the same name that differ have two texts that
  are confused.
* `Template.exists_collision` — two records with the same name that differ.
* `Template.agree_iff_not_confused` — when two records have the same name.
-/

set_option autoImplicit false

namespace TypedNames

namespace Template

variable {t : Template} {r r' : Record}

/-- The fields show the values of the two records alike: the same decimals in fixed-point, and
otherwise equal values. -/
def Agree (t : Template) (r r' : Record) : Prop :=
  ∀ f ∈ t.fields, ∀ v ∈ r.get? f.name, ∀ v' ∈ r'.get? f.name, f.format.Agree v v'

/-- The texts of two fields without a width, with no separating field between them, are taken apart
differently: in the first field the text of one record goes on behind that of the other, and in the
second field in front of it. -/
def Confused (t : Template) (r r' : Record) : Prop :=
  ∃ before f between g behind, t.fields = before ++ f :: (between ++ g :: behind) ∧
    f.isBare = true ∧ g.isBare = true ∧ (∀ h ∈ between ++ [g], h.separates = false) ∧
    ∃ x x' y y' : String, r.get? f.name = some (.str x) ∧ r'.get? f.name = some (.str x') ∧
      r.get? g.name = some (.str y) ∧ r'.get? g.name = some (.str y') ∧
      ContinuesBehind x.toList x'.toList ∧ ContinuesBefore y.toList y'.toList

/-- The same tokens are written exactly for records that agree. -/
theorem tokens_eq_iff_agree {xs ys : List (List Char)} (h : t.Tokenizes r xs)
    (h' : t.Tokenizes r' ys) (free : t.ZeroFree r) (free' : t.ZeroFree r') :
    xs = ys ↔ t.Agree r r' := by
  have hfield {f : Field} (hf : f ∈ t.fields) {v v' : Value} {x y : List Char}
      (hv : r.get? f.name = some v) (hv' : r'.get? f.name = some v') (hx : f.write v = .ok x)
      (hy : f.write v' = .ok y) : x = y ↔ f.format.Agree v v' :=
    Format.token_eq_iff_agree f.inRange (Field.write_eq_ok_iff.1 hx) (Field.write_eq_ok_iff.1 hy)
      (free f hf v hv) (free' f hf v' hv')
  constructor
  · rintro rfl f hf
    have hagree : List.Forall₂ (fun f _ => f ∈ t.fields → ∀ v ∈ r.get? f.name,
        ∀ v' ∈ r'.get? f.name, f.format.Agree v v') t.fields xs := by
      refine h.mp ?_ h'
      rintro f x ⟨v, hv, hx⟩ ⟨v', hv', hy⟩ hf w hw w' hw'
      obtain rfl := Option.some.inj (hv.symm.trans hw)
      obtain rfl := Option.some.inj (hv'.symm.trans hw')
      exact (hfield hf hv hv' hx hy).1 rfl
    exact forall_mem_of_forall₂ hagree f hf hf
  · intro hagree
    rw [← List.forall₂_eq_eq_eq]
    apply forall₂_of_forall₂ h h'
    rintro f hf x y ⟨v, hv, hx⟩ ⟨v', hv', hy⟩
    exact (hfield hf hv hv' hx hy).2 (hagree f hf v hv v' hv')

/-- The tokens of twins are written for the values of a record. -/
theorem exists_of_tokenizes_map {twins : List Twin} {token : Twin → List Char}
    (hfields : twins.map Twin.field = t.fields) (h : t.Tokenizes r (twins.map token)) :
    ∀ s ∈ twins, ∃ v, r.get? s.field.name = some v ∧ s.field.write v = .ok (token s) := by
  rw [Tokenizes, ← hfields, List.forall₂_map_left_iff, List.forall₂_map_right_iff,
    List.forall₂_same] at h
  exact h

/-- A field of texts without a width writes texts as they are. -/
theorem eq_str_of_write {f : Field} {v : Value} {token : List Char} (bare : f.isBare = true)
    (h : f.write v = .ok token) : v = .str (String.ofList token) := by
  have hwrites := Field.write_eq_ok_iff.1 h
  rw [Field.isBare_iff.1 bare] at hwrites
  cases hwrites with
  | str _ s => rw [Format.strToken, String.ofList_toList]

/-- Records with the same name that do not agree are confused. -/
theorem confused_of_not_agree {name : String} (h : t.write r = .ok name)
    (h' : t.write r' = .ok name) (fits : t.Fits r) (fits' : t.Fits r') (free : t.ZeroFree r)
    (free' : t.ZeroFree r') (differ : ¬ t.Agree r r') : t.Confused r r' := by
  obtain ⟨-, xs, hxs, rfl⟩ := write_eq_ok_iff.1 h
  obtain ⟨-, ys, hys, hname⟩ := write_eq_ok_iff.1 h'
  have hsplit := isSplit_of_tokenizes hxs fits
  have hsplit' := isSplit_of_tokenizes hys fits'
  rw [hname] at hsplit'
  obtain ⟨twins, hfields, rfl, rfl, hrow⟩ := exists_twins_of_isSplit hsplit hsplit'
  have hne : twins.map Twin.left ≠ twins.map Twin.right :=
    fun e => differ ((tokens_eq_iff_agree hxs hys free free').1 e)
  have hleft := exists_of_tokenizes_map hfields hxs
  have hright := exists_of_tokenizes_map hfields hys
  obtain ⟨before, p, between, q, behind, rfl, hbehind, hbefore, hsoft⟩ :=
    Twin.exists_unseparated_pair hrow (exists_ne_of_map_ne hne)
  have hp := Twin.isBare_of_continuesBehind hbehind
  have hq := Twin.isBare_of_continuesBefore hbefore
  have hmem : p ∈ before ++ p :: (between ++ q :: behind) := by simp
  have hmem' : q ∈ before ++ p :: (between ++ q :: behind) := by simp
  obtain ⟨v, hv, hx⟩ := hleft p hmem
  obtain ⟨v', hv', hx'⟩ := hright p hmem
  obtain ⟨w, hw, hy⟩ := hleft q hmem'
  obtain ⟨w', hw', hy'⟩ := hright q hmem'
  rw [eq_str_of_write hp hx] at hv
  rw [eq_str_of_write hp hx'] at hv'
  rw [eq_str_of_write hq hy] at hw
  rw [eq_str_of_write hq hy'] at hw'
  refine ⟨before.map Twin.field, p.field, between.map Twin.field, q.field, behind.map Twin.field,
    by simp [← hfields], hp, hq, ?_, _, _, _, _, hv, hv', hw, hw', ?_, ?_⟩
  · intro f hf
    rcases List.mem_append.1 hf with hf | hf
    · obtain ⟨s, hs, rfl⟩ := List.mem_map.1 hf
      exact hsoft s (List.mem_append_left _ hs)
    · rw [List.mem_singleton.1 hf]
      exact hsoft q (by simp)
  · rwa [String.toList_ofList, String.toList_ofList]
  · rwa [String.toList_ofList, String.toList_ofList]

/-- Records that agree give the same text to a field of texts without a width. -/
theorem eq_of_agree {f : Field} (agree : t.Agree r r') (mem : f ∈ t.fields)
    (bare : f.isBare = true) {x x' : String} (hx : r.get? f.name = some (.str x))
    (hx' : r'.get? f.name = some (.str x')) : x = x' := by
  have hsame := agree f mem _ hx _ hx'
  rw [Field.isBare_iff.1 bare] at hsame
  exact Value.str.inj hsame

/-- Records that are confused do not agree. -/
theorem not_agree_of_confused (h : t.Confused r r') : ¬ t.Agree r r' := by
  obtain ⟨before, f, between, g, behind, hfields, hf, -, -, x, x', -, -, hx, hx', -, -,
    ⟨w, hw⟩, -⟩ := h
  intro hagree
  have e : x = x' := eq_of_agree hagree (by simp [hfields]) hf hx hx'
  rw [e] at hw
  simp at hw

end Template

/-! ## Two records with one name -/

/-- The value fits and has no zeros of its own, and its token is a word or a number in
fixed-point. -/
def Format.Plain (format : Format) (v : Value) (token : List Char) : Prop :=
  format.fits v = true ∧ format.zeroFree v = true ∧
    (format.kind ≠ .float → ∀ c ∈ token, Text.isWord c = true)

/-- Every format has a plain value. -/
theorem Format.exists_plain (format : Format) :
    ∃ v token, format.Writes v token ∧ format.Plain v token := by
  cases format with
  | fixed i d =>
    have hnumber : (Value.float (.finite false .zero)).number? = some (.finite false .zero) := by
      rw [Value.number?]
    exact ⟨_, _, .fixed hnumber, rfl, rfl, fun h => absurd rfl h⟩
  | bool => exact ⟨_, _, .bool true, rfl, rfl, fun _ => isWord_of_matches_bool (.inl rfl)⟩
  | int width =>
    refine ⟨_, _, .int width 0, by cases width <;> rfl, by cases width <;> rfl, ?_⟩
    intro _ c hc
    exact Text.isWord_of_isDigit (Integer.isDigits_leftpad_digits _ _ c hc)
  | str padding =>
    rcases padding with _ | ⟨n, side⟩
    · refine ⟨_, _, .str none "0", by decide, by decide, fun _ => ?_⟩
      exact List.all_eq_true.1 (by decide)
    · refine ⟨_, _, .str (some (n, side)) "", by simp [fits], by simp [zeroFree], ?_⟩
      intro _ c hc
      rcases mem_strToken_iff.1 hc with hc | ⟨rfl, -⟩
      · simp at hc
      · decide

/-- A field with a value and the token that its format writes for it. -/
structure Cell where
  /-- The field. -/
  field : Field
  /-- The value. -/
  value : Value
  /-- The token. -/
  token : List Char
  writes : field.format.Writes value token

namespace Cell

/-- The value is plain. -/
def Plain (c : Cell) : Prop :=
  c.field.format.Plain c.value c.token

/-- Every row of fields has a row of plain values. -/
theorem exists_plain_row (fields : List Field) :
    ∃ cells : List Cell, cells.map field = fields ∧ ∀ c ∈ cells, c.Plain := by
  induction fields with
  | nil => exact ⟨[], rfl, fun c hc => absurd hc List.not_mem_nil⟩
  | cons f fs ih =>
    obtain ⟨v, token, hwrites, hplain⟩ := f.format.exists_plain
    obtain ⟨cells, rfl, hcells⟩ := ih
    exact ⟨⟨f, v, token, hwrites⟩ :: cells, rfl, List.forall_mem_cons.2 ⟨hplain, hcells⟩⟩

/-- A row of plain values shows only word characters, if it is so for the names and there are no
numbers in fixed-point. -/
theorem isWord_of_mem_body {cells : List Cell} (plain : ∀ c ∈ cells, c.Plain)
    (kind : ∀ c ∈ cells, c.field.format.kind ≠ .float)
    (name : ∀ c ∈ cells, ∀ a ∈ c.field.name.toList, Text.isWord a = true) :
    ∀ a ∈ Template.body ['_'] (cells.map field) (cells.map token), Text.isWord a = true := by
  induction cells with
  | nil =>
    intro a ha
    simp [Template.body] at ha
  | cons c rest ih =>
    have htoken := (plain c List.mem_cons_self).2.2 (kind c List.mem_cons_self)
    have hrest := ih (fun d hd => plain d (List.mem_cons_of_mem _ hd))
      (fun d hd => kind d (List.mem_cons_of_mem _ hd))
      (fun d hd => name d (List.mem_cons_of_mem _ hd))
    intro a ha
    simp only [List.map_cons, Template.body, Template.segment, List.mem_append, List.mem_cons,
      List.not_mem_nil, or_false] at ha
    rcases ha with (rfl | ha | rfl | ha) | ha
    · exact Text.isWord_underscore
    · exact name c List.mem_cons_self a ha
    · exact Text.isWord_underscore
    · exact htoken a ha
    · exact hrest a ha

/-- A field of texts without a width, with a text. -/
def ofText (f : Field) (bare : f.isBare = true) (text : List Char) : Cell where
  field := f
  value := .str (String.ofList text)
  token := text
  writes := by
    have hwrites := Format.Writes.str none (String.ofList text)
    rw [Format.strToken, String.toList_ofList] at hwrites
    rwa [Field.isBare_iff.1 bare]

/-- A word is a plain value. -/
theorem plain_ofText {f : Field} {bare : f.isBare = true} {text : List Char} (ne : text ≠ [])
    (word : ∀ a ∈ text, Text.isWord a = true) : (ofText f bare text).Plain := by
  have hfits : (Format.str none).fits (.str (String.ofList text)) = true := by
    rw [Format.fits, String.toList_ofList, Bool.and_eq_true, List.all_eq_true]
    exact ⟨by simpa using ne, word⟩
  have hplain : (Format.str none).Plain (.str (String.ofList text)) text :=
    ⟨hfits, rfl, fun _ => word⟩
  rwa [← Field.isBare_iff.1 bare] at hplain

/-- What a row shows between the texts of two fields: other fields, and the name of the second
one. -/
def gap (between : List Cell) (g : Field) : List Char :=
  Template.body ['_'] (between.map field) (between.map token) ++ '_' :: (g.name.toList ++ ['_'])

/-- Between two texts a row shows only word characters, if it is so for the names and there are no
numbers in fixed-point. -/
theorem isWord_of_mem_gap {between : List Cell} {g : Field} (plain : ∀ c ∈ between, c.Plain)
    (kind : ∀ h ∈ between.map field, h.format.kind ≠ .float)
    (name : ∀ h ∈ between.map field ++ [g], ∀ a ∈ h.name.toList, Text.isWord a = true) :
    ∀ a ∈ gap between g, Text.isWord a = true := by
  have hbody := isWord_of_mem_body plain (fun c hc => kind c.field (List.mem_map_of_mem hc))
    (fun c hc => name c.field (List.mem_append_left _ (List.mem_map_of_mem hc)))
  intro a ha
  simp only [gap, List.mem_append, List.mem_cons, List.not_mem_nil, or_false] at ha
  rcases ha with ha | rfl | ha | rfl
  · exact hbody a ha
  · exact Text.isWord_underscore
  · exact name g (by simp) a ha
  · exact Text.isWord_underscore

section WithTexts

variable (before between behind : List Cell) {f g : Field} (hf : f.isBare = true)
  (hg : g.isBare = true)

/-- A row of values with two texts among them. -/
def withTexts (x y : List Char) : List Cell :=
  before ++ ofText f hf x :: (between ++ ofText g hg y :: behind)

/-- The fields of such a row do not depend on the texts. -/
theorem map_field_withTexts (x y : List Char) :
    (withTexts before between behind hf hg x y).map field =
      before.map field ++ f :: (between.map field ++ g :: behind.map field) := by
  simp [withTexts, ofText]

/-- Such a row is plain if the texts are words and everything else is plain. -/
theorem plain_withTexts (hbefore : ∀ c ∈ before, c.Plain) (hbetween : ∀ c ∈ between, c.Plain)
    (hbehind : ∀ c ∈ behind, c.Plain) {x y : List Char} (hx : x ≠ [])
    (hx' : ∀ a ∈ x, Text.isWord a = true) (hy : y ≠ []) (hy' : ∀ a ∈ y, Text.isWord a = true) :
    ∀ c ∈ withTexts before between behind hf hg x y, c.Plain := by
  intro c hc
  simp only [withTexts, List.mem_append, List.mem_cons] at hc
  rcases hc with hc | rfl | hc | rfl | hc
  · exact hbefore c hc
  · exact plain_ofText hx hx'
  · exact hbetween c hc
  · exact plain_ofText hy hy'
  · exact hbehind c hc

/-- The text of such a row. -/
theorem body_withTexts (x y : List Char) :
    Template.body [] (before.map field ++ f :: (between.map field ++ g :: behind.map field))
        ((withTexts before between behind hf hg x y).map token) =
      Template.body [] (before.map field) (before.map token) ++
        (Template.delimiterBehind [] (before.map field) ++ (f.name.toList ++ '_' ::
          (x ++ gap between g ++ y ++
            Template.body ['_'] (behind.map field) (behind.map token)))) := by
  have htokens : (withTexts before between behind hf hg x y).map token =
      before.map token ++ x :: (between.map token ++ y :: behind.map token) := by
    simp [withTexts, ofText]
  rw [htokens, Template.body_append [] (by simp), Template.body,
    Template.body_append ['_'] (by simp), Template.body, Template.delimiterBehind_underscore]
  simp [Template.segment, gap]

/-- Such a row shows the same text if the first text goes on across what stands between the two,
and if the second one does. -/
theorem body_collision (more : List Char) :
    let fields := before.map field ++ f :: (between.map field ++ g :: behind.map field)
    let long := more ++ gap between g ++ more
    Template.body [] fields ((withTexts before between behind hf hg long more).map token) =
      Template.body [] fields ((withTexts before between behind hf hg more long).map token) := by
  intro fields long
  rw [body_withTexts, body_withTexts]
  simp [long]

end WithTexts

end Cell

namespace Template

variable {t : Template} {cells : List Cell}

/-- The record of a row of values for the fields. -/
def recordOf (t : Template) (cells : List Cell) (h : cells.map Cell.field = t.fields) : Record where
  entries := cells.map fun c => (c.field.name, c.value)
  nodup := by
    have hnames : (cells.map fun c => (c.field.name, c.value)).map Prod.fst = t.names := by
      rw [names, ← h, List.map_map, List.map_map]
      rfl
    rw [hnames]
    exact t.nodup

/-- The record gives each field its value. -/
theorem get?_recordOf {h : cells.map Cell.field = t.fields} {c : Cell} (hc : c ∈ cells) :
    (t.recordOf cells h).get? c.field.name = some c.value :=
  Record.get?_eq_some_iff.2 (List.mem_map.2 ⟨c, hc, rfl⟩)

/-- What holds for all values holds for the record. -/
theorem forall_recordOf {h : cells.map Cell.field = t.fields} {P : Field → Value → Prop}
    (all : ∀ c ∈ cells, P c.field c.value) :
    ∀ f ∈ t.fields, ∀ v ∈ (t.recordOf cells h).get? f.name, P f v := by
  intro f hf v hv
  rw [← h] at hf
  obtain ⟨c, hc, rfl⟩ := List.mem_map.1 hf
  obtain rfl := Option.some.inj ((get?_recordOf hc).symm.trans hv)
  exact all c hc

/-- The record has the name with the tokens of the values. -/
theorem write_recordOf {h : cells.map Cell.field = t.fields} :
    t.write (t.recordOf cells h) = .ok (String.ofList (t.spell (cells.map Cell.token))) := by
  refine write_eq_ok_iff.2 ⟨?_, _, ?_, rfl⟩
  · intro name hname
    rw [names, ← h]
    obtain ⟨entry, hentry, rfl⟩ := List.mem_map.1 hname
    obtain ⟨c, hc, rfl⟩ := List.mem_map.1 hentry
    exact List.mem_map.2 ⟨c.field, List.mem_map.2 ⟨c, hc, rfl⟩, rfl⟩
  · rw [Tokenizes, ← h, List.forall₂_map_left_iff, List.forall₂_map_right_iff, List.forall₂_same]
    intro c hc
    exact ⟨c.value, get?_recordOf hc, Field.write_eq_ok_iff.2 c.writes⟩

/-- **Two records with the same name that differ** exist for every template with two fields of texts
without a width between which only words stand.

**Proof sketch.** Give every other field any plain value, and let `gap` be what stands between the
two texts. Then the texts `0 gap 0` and `0` show the same as `0` and `0 gap 0`. -/
theorem exists_collision {before between behind : List Field} {f g : Field}
    (hfields : t.fields = before ++ f :: (between ++ g :: behind)) (hf : f.isBare = true)
    (hg : g.isBare = true) (hkind : ∀ h ∈ between, h.format.kind ≠ .float)
    (hname : ∀ h ∈ between ++ [g], ∀ c ∈ h.name.toList, Text.isWord c = true) :
    ∃ r r' name, t.write r = .ok name ∧ t.write r' = .ok name ∧ t.Fits r ∧ t.Fits r' ∧
      t.ZeroFree r ∧ t.ZeroFree r' ∧ ¬ t.Agree r r' := by
  obtain ⟨as, rfl, has⟩ := Cell.exists_plain_row before
  obtain ⟨bs, rfl, hbs⟩ := Cell.exists_plain_row between
  obtain ⟨cs, rfl, hcs⟩ := Cell.exists_plain_row behind
  obtain ⟨long, hlong⟩ : ∃ long, long = ['0'] ++ Cell.gap bs g ++ ['0'] := ⟨_, rfl⟩
  have hzero : ∀ c ∈ ['0'], Text.isWord c = true := List.all_eq_true.1 (by decide)
  have hword : ∀ c ∈ long, Text.isWord c = true := by
    intro c hc
    rw [hlong, List.mem_append, List.mem_append] at hc
    rcases hc with (hc | hc) | hc
    · exact hzero c hc
    · exact Cell.isWord_of_mem_gap hbs hkind hname c hc
    · exact hzero c hc
  have hne : long ≠ [] := by simp [hlong]
  have hcells (x y : List Char) :
      (Cell.withTexts as bs cs hf hg x y).map Cell.field = t.fields := by
    rw [Cell.map_field_withTexts, hfields]
  have hleft := Cell.plain_withTexts as bs cs hf hg has hbs hcs hne hword
    (List.cons_ne_nil '0' []) hzero
  have hright := Cell.plain_withTexts as bs cs hf hg has hbs hcs (List.cons_ne_nil '0' []) hzero
    hne hword
  refine ⟨t.recordOf _ (hcells long ['0']), t.recordOf _ (hcells ['0'] long), _, write_recordOf, ?_,
    forall_recordOf fun c hc => (hleft c hc).1, forall_recordOf fun c hc => (hright c hc).1,
    forall_recordOf fun c hc => (hleft c hc).2.1, forall_recordOf fun c hc => (hright c hc).2.1, ?_⟩
  · rw [write_recordOf]
    refine congrArg (fun text => Except.ok (String.ofList text)) (spell_inj.2 ?_)
    rw [hfields, hlong]
    exact (Cell.body_collision as bs cs hf hg ['0']).symm
  · intro hagree
    have hv := get?_recordOf (h := hcells long ['0']) (c := Cell.ofText f hf long)
      (by simp [Cell.withTexts])
    have hv' := get?_recordOf (h := hcells ['0'] long) (c := Cell.ofText f hf ['0'])
      (by simp [Cell.withTexts])
    have e := eq_of_agree hagree (by simp [hfields]) hf hv hv'
    have hlength := congrArg List.length (hlong.symm.trans (String.ofList_injective e))
    simp at hlength

/-- **When two records have the same name.** Fields write the same tokens exactly for records that
they show alike. Of two records that fit, without zeros that padding could have put there, and with
the same name, two fields of texts are confused exactly if the records do not agree. And a template
with two fields of texts between which only words stand has two such records. -/
theorem agree_iff_not_confused (t : Template) :
    (∀ r r' xs ys, t.Tokenizes r xs → t.Tokenizes r' ys → t.ZeroFree r → t.ZeroFree r' →
      (xs = ys ↔ t.Agree r r')) ∧
    (∀ r r' name, t.write r = .ok name → t.write r' = .ok name → t.Fits r → t.Fits r' →
      t.ZeroFree r → t.ZeroFree r' → (t.Agree r r' ↔ ¬ t.Confused r r')) ∧
    ∀ before f between g behind, t.fields = before ++ f :: (between ++ g :: behind) →
      f.isBare = true → g.isBare = true → (∀ h ∈ between, h.format.kind ≠ .float) →
      (∀ h ∈ between ++ [g], ∀ c ∈ h.name.toList, Text.isWord c = true) →
      ∃ r r' name, t.write r = .ok name ∧ t.write r' = .ok name ∧ t.Fits r ∧ t.Fits r' ∧
        t.ZeroFree r ∧ t.ZeroFree r' ∧ ¬ t.Agree r r' := by
  refine ⟨?_, ?_, ?_⟩
  · intro r r' xs ys h h' free free'
    exact tokens_eq_iff_agree h h' free free'
  · intro r r' name h h' fits fits' free free'
    constructor
    · intro hagree hconfused
      exact not_agree_of_confused hconfused hagree
    · intro hconfused
      by_contra hagree
      exact hconfused (confused_of_not_agree h h' fits fits' free free' hagree)
  · intro before f between g behind hfields hf hg hkind hname
    exact exists_collision hfields hf hg hkind hname

end Template

end TypedNames
