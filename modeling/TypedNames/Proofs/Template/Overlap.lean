import TypedNames.Proofs.Format.Shapes
import TypedNames.Proofs.Template.Conversion

/-!
# Two rows of tokens with one text

A token can be confused with what stands around it only if it can hold the underscore that ends it
or that stands in front of it. So where two rows of tokens for the same fields have the same text,
the first token in which they differ and the last one belong to texts without a width, and these
are two fields.

## Main definitions

* `Field.isBare` — a field of texts without a width.
* `ContinuesBehind`, `ContinuesBefore` — one of two texts goes on where the other one has ended or
  not begun, across an underscore.
* `Twin` — a field with two tokens.

## Main results

* `Twin.exists_first_difference`, `Twin.exists_last_difference` — where two rows of tokens with one
  text differ first and last.
* `Template.split_unique` — a text has at most one split if there is at most one field of texts
  without a width.
-/

set_option autoImplicit false

namespace TypedNames

/-- Whether the field is one of texts without a width. -/
def Field.isBare (f : Field) : Bool :=
  decide (f.format = .str none)

/-- The format of such a field is that of texts without a width. -/
theorem Field.isBare_iff {f : Field} : f.isBare = true ↔ f.format = .str none :=
  decide_eq_true_iff

/-- One of the texts is the other one with an underscore and more behind it. -/
def ContinuesBehind (x y : List Char) : Prop :=
  ∃ w, x = y ++ '_' :: w ∨ y = x ++ '_' :: w

/-- One of the texts is the other one with more and an underscore in front of it. -/
def ContinuesBefore (x y : List Char) : Prop :=
  ∃ w, x = w ++ '_' :: y ∨ y = w ++ '_' :: x

/-! ## Lists -/

/-- Of the members with a property one is the first. -/
theorem exists_first {α : Type} {P : α → Prop} {l : List α} (h : ∃ x ∈ l, P x) :
    ∃ before x after, l = before ++ x :: after ∧ P x ∧ ∀ a ∈ before, ¬ P a := by
  induction l with
  | nil =>
    obtain ⟨x, hx, -⟩ := h
    exact absurd hx List.not_mem_nil
  | cons b rest ih =>
    by_cases hb : P b
    · exact ⟨[], b, rest, rfl, hb, fun a ha => absurd ha List.not_mem_nil⟩
    · have hrest : ∃ x ∈ rest, P x := by
        obtain ⟨x, hx, hP⟩ := h
        rcases List.mem_cons.1 hx with rfl | hx
        · exact absurd hP hb
        · exact ⟨x, hx, hP⟩
      obtain ⟨before, x, after, rfl, hP, hbefore⟩ := ih hrest
      refine ⟨b :: before, x, after, rfl, hP, ?_⟩
      intro a ha
      rcases List.mem_cons.1 ha with rfl | ha
      · exact hb
      · exact hbefore a ha

/-- Of the members with a property one is the last. -/
theorem exists_last {α : Type} {P : α → Prop} {l : List α} (h : ∃ x ∈ l, P x) :
    ∃ before x after, l = before ++ x :: after ∧ P x ∧ ∀ a ∈ after, ¬ P a := by
  have hreverse : ∃ x ∈ l.reverse, P x := by simpa using h
  obtain ⟨after, x, before, hl, hP, hafter⟩ := exists_first hreverse
  refine ⟨before.reverse, x, after.reverse, ?_, hP, by simpa using hafter⟩
  rw [← List.reverse_reverse l, hl]
  simp

/-- Two texts in front of nothing or of an underscore are equal, or one goes on behind the
other. -/
theorem eq_or_continuesBehind {x y r s : List Char} (hr : ∀ c ∈ r.head?, c = '_')
    (hs : ∀ c ∈ s.head?, c = '_') (h : x ++ r = y ++ s) :
    x = y ∧ r = s ∨ ContinuesBehind x y := by
  rcases List.append_eq_append_iff.1 h with ⟨a, rfl, rfl⟩ | ⟨a, rfl, rfl⟩
  · cases a with
    | nil => exact .inl ⟨by simp, rfl⟩
    | cons c w =>
      obtain rfl := hr c rfl
      exact .inr ⟨w, .inr rfl⟩
  · cases a with
    | nil => exact .inl ⟨by simp, rfl⟩
    | cons c w =>
      obtain rfl := hs c rfl
      exact .inr ⟨w, .inl rfl⟩

/-- Two texts behind an underscore are equal, or one goes on in front of the other. -/
theorem eq_or_continuesBefore {p q x y : List Char} (h : p ++ '_' :: x = q ++ '_' :: y) :
    x = y ∨ ContinuesBefore x y := by
  rcases List.append_eq_append_iff.1 h with ⟨a, rfl, ha⟩ | ⟨a, rfl, ha⟩
  · cases a with
    | nil => exact .inl (List.cons.inj ha).2
    | cons c w => exact .inr ⟨w, .inl (List.cons.inj ha).2⟩
  · cases a with
    | nil => exact .inl (List.cons.inj ha).2.symm
    | cons c w => exact .inr ⟨w, .inr (List.cons.inj ha).2⟩

namespace Template

/-- The delimiter in front of what follows a row of fields. -/
def delimiterBehind (delimiter : List Char) : List Field → List Char
  | [] => delimiter
  | _ :: _ => ['_']

/-- Behind a row that starts with an underscore, what follows starts with one too. -/
@[simp]
theorem delimiterBehind_underscore (fields : List Field) :
    delimiterBehind ['_'] fields = ['_'] := by
  cases fields <;> rfl

/-- A row of fields in two parts. -/
theorem body_append (delimiter : List Char) {fields more : List Field}
    {tokens others : List (List Char)} (h : tokens.length = fields.length) :
    body delimiter (fields ++ more) (tokens ++ others) =
      body delimiter fields tokens ++ body (delimiterBehind delimiter fields) more others := by
  induction fields generalizing delimiter tokens with
  | nil =>
    rw [List.length_nil, List.length_eq_zero_iff] at h
    subst h
    rfl
  | cons f fs ih =>
    cases tokens with
    | nil => simp at h
    | cons token tokens =>
      rw [List.cons_append, List.cons_append, body, ih ['_'] (Nat.succ.inj h), body,
        delimiterBehind_underscore, delimiterBehind]
      simp

/-- A row behind an underscore starts with it, or there is no field in it. -/
theorem head?_body (fields : List Field) (tokens : List (List Char)) :
    ∀ c ∈ (body ['_'] fields tokens).head?, c = '_' := by
  intro c hc
  cases fields with
  | nil => simp [body] at hc
  | cons f fs =>
    cases tokens with
    | nil => simp [body] at hc
    | cons token tokens => simpa [body] using hc.symm

end Template

/-! ## Twins -/

/-- A field with two tokens that its pattern matches. -/
structure Twin where
  /-- The field. -/
  field : Field
  /-- The one token. -/
  left : List Char
  /-- The other token. -/
  right : List Char
  matches_left : field.pattern.Matches left
  matches_right : field.pattern.Matches right

namespace Twin

/-- Two rows of tokens for the same fields are a row of twins. -/
theorem exists_twins {fields : List Field} {xs ys : List (List Char)}
    (hx : Template.Accepted fields xs) (hy : Template.Accepted fields ys) :
    ∃ twins : List Twin, twins.map field = fields ∧ twins.map left = xs ∧
      twins.map right = ys := by
  induction fields generalizing xs ys with
  | nil =>
    exact ⟨[], rfl, (List.forall₂_nil_left_iff.1 hx).symm, (List.forall₂_nil_left_iff.1 hy).symm⟩
  | cons f fs ih =>
    obtain ⟨x, us, hxf, hus, rfl⟩ := List.forall₂_cons_left_iff.1 hx
    obtain ⟨y, vs, hyf, hvs, rfl⟩ := List.forall₂_cons_left_iff.1 hy
    obtain ⟨twins, rfl, rfl, rfl⟩ := ih hus hvs
    exact ⟨⟨f, x, y, hxf, hyf⟩ :: twins, rfl, rfl, rfl⟩

/-- The text of a row of twins with one of their tokens, the first one behind the given
delimiter. -/
def row (token : Twin → List Char) (delimiter : List Char) (twins : List Twin) : List Char :=
  Template.body delimiter (twins.map field) (twins.map token)

/-- A row starts with its delimiter and the first field. -/
theorem row_cons (token : Twin → List Char) (delimiter : List Char) (t : Twin) (rest : List Twin) :
    row token delimiter (t :: rest) =
      delimiter ++ (t.field.name.toList ++ '_' :: (token t ++ row token ['_'] rest)) := by
  simp [row, Template.body, Template.segment]

/-- A row in two parts. -/
theorem row_append (token : Twin → List Char) (delimiter : List Char) (before after : List Twin) :
    row token delimiter (before ++ after) = row token delimiter before ++
      row token (Template.delimiterBehind delimiter (before.map field)) after := by
  rw [row, List.map_append, List.map_append, Template.body_append delimiter (by simp)]
  rfl

/-- Rows of the same tokens are the same. -/
theorem row_congr {token other : Twin → List Char} {delimiter : List Char} {twins : List Twin}
    (h : ∀ t ∈ twins, token t = other t) :
    row token delimiter twins = row other delimiter twins := by
  rw [row, row, List.map_congr_left h]

/-- Only texts without a width have tokens of different lengths, one of them with an underscore. -/
theorem isBare_of_mem {t : Twin} (mem : '_' ∈ t.left ∨ '_' ∈ t.right)
    (ne : t.left.length ≠ t.right.length) : t.field.isBare = true := by
  obtain ⟨f, x, y, hx, hy⟩ := t
  apply Field.isBare_iff.2
  unfold Field.pattern at hx hy
  dsimp only at mem ne ⊢
  by_cases hkind : f.format.kind = .str
  · obtain ⟨padding, hformat⟩ := Format.kind_eq_str_iff.1 hkind
    rcases padding with _ | ⟨n, side⟩
    · exact hformat
    · rw [hformat] at hx hy
      exact absurd (hx.1.trans hy.1.symm) ne
  · rcases mem with hmem | hmem
    · exact absurd hmem (Format.underscore_notMem_of_matches hkind hx)
    · exact absurd hmem (Format.underscore_notMem_of_matches hkind hy)

/-- If one of the tokens goes on behind the other, the field is one of texts without a width. -/
theorem isBare_of_continuesBehind {t : Twin} (h : ContinuesBehind t.left t.right) :
    t.field.isBare = true := by
  obtain ⟨w, e | e⟩ := h
  · exact isBare_of_mem (.inl (by simp [e])) (by simp [e])
  · exact isBare_of_mem (.inr (by simp [e])) (by simp [e])

/-- If one of the tokens goes on in front of the other, the field is one of texts without a
width. -/
theorem isBare_of_continuesBefore {t : Twin} (h : ContinuesBefore t.left t.right) :
    t.field.isBare = true := by
  obtain ⟨w, e | e⟩ := h
  · apply isBare_of_mem (.inl (by simp [e]))
    rw [e, List.length_append, List.length_cons]
    omega
  · apply isBare_of_mem (.inr (by simp [e]))
    rw [e, List.length_append, List.length_cons]
    omega

/-- **The first difference of two rows with one text** is at a field of texts without a width,
where one token goes on behind the other.

**Proof sketch.** Up to the first difference the rows are the same, so the two tokens stand at the
same place, and what follows each of them starts with an underscore or is nothing. -/
theorem exists_first_difference {delimiter : List Char} {twins : List Twin}
    (h : row left delimiter twins = row right delimiter twins)
    (ne : ∃ t ∈ twins, t.left ≠ t.right) :
    ∃ before p after, twins = before ++ p :: after ∧ p.left ≠ p.right ∧
      ContinuesBehind p.left p.right ∧
      p.left ++ row left ['_'] after = p.right ++ row right ['_'] after := by
  obtain ⟨before, p, after, rfl, hp, hbefore⟩ := exists_first ne
  have hsame : row left delimiter before = row right delimiter before :=
    row_congr fun t ht => not_not.1 (hbefore t ht)
  rw [row_append, row_append, hsame, row_cons, row_cons] at h
  have hplace := List.append_cancel_left (List.append_cancel_left (List.append_cancel_left h))
  have htokens := (List.cons.inj hplace).2
  refine ⟨before, p, after, rfl, hp, ?_, htokens⟩
  rcases eq_or_continuesBehind (Template.head?_body _ _) (Template.head?_body _ _) htokens with
    e | hc
  · exact absurd e.1 hp
  · exact hc

/-- **The last difference of two rows with one text** that start with different tokens is at
another field of texts without a width, where one token goes on in front of the other.

**Proof sketch.** If the rows were the same behind the first tokens, these would be equal too. From
the last difference on the rows are the same, so the two tokens there end at the same place, and
an underscore stands in front of each. -/
theorem exists_last_difference {p : Twin} {after : List Twin} (ne : p.left ≠ p.right)
    (h : p.left ++ row left ['_'] after = p.right ++ row right ['_'] after) :
    ∃ between q behind, after = between ++ q :: behind ∧ q.left ≠ q.right ∧
      ContinuesBefore q.left q.right := by
  have hdiffer : ∃ t ∈ after, t.left ≠ t.right := by
    by_contra hsame
    push Not at hsame
    rw [row_congr hsame] at h
    exact ne (List.append_cancel_right h)
  obtain ⟨between, q, behind, rfl, hq, hbehind⟩ := exists_last hdiffer
  refine ⟨between, q, behind, rfl, hq, ?_⟩
  have hsame : row left ['_'] behind = row right ['_'] behind :=
    row_congr fun t ht => not_not.1 (hbehind t ht)
  have hplace : (p.left ++ row left ['_'] between ++ '_' :: q.field.name.toList) ++
        '_' :: q.left =
      (p.right ++ row right ['_'] between ++ '_' :: q.field.name.toList) ++ '_' :: q.right := by
    rw [row_append, row_append, row_cons, row_cons, hsame] at h
    apply (List.append_left_inj (row right ['_'] behind)).1
    simpa using h
  rcases eq_or_continuesBefore hplace with e | hc
  · exact absurd e hq
  · exact hc

end Twin

namespace Template

/-- Two splits of one text are a row of twins with one text. -/
theorem exists_twins_of_isSplit {t : Template} {text : List Char} {xs ys : List (List Char)}
    (hx : t.IsSplit text xs) (hy : t.IsSplit text ys) :
    ∃ twins : List Twin, twins.map Twin.field = t.fields ∧ twins.map Twin.left = xs ∧
      twins.map Twin.right = ys ∧ Twin.row Twin.left [] twins = Twin.row Twin.right [] twins := by
  obtain ⟨haccepted, hspell⟩ := isSplit_iff.1 hx
  obtain ⟨haccepted', hspell'⟩ := isSplit_iff.1 hy
  obtain ⟨twins, hfields, rfl, rfl⟩ := Twin.exists_twins haccepted haccepted'
  refine ⟨twins, hfields, rfl, rfl, ?_⟩
  rw [Twin.row, Twin.row, hfields]
  exact spell_inj.1 (hspell.trans hspell'.symm)

/-- Tokens that are not the same differ at some field. -/
theorem exists_ne_of_map_ne {twins : List Twin} (ne : twins.map Twin.left ≠ twins.map Twin.right) :
    ∃ t ∈ twins, t.left ≠ t.right := by
  by_contra hsame
  push Not at hsame
  exact ne (List.map_congr_left hsame)

/-- **A text has at most one split** if at most one field is one of texts without a width.

**Proof sketch.** Two different splits would differ first at one such field and last at another. -/
theorem split_unique {t : Template} (one : (t.fields.filter Field.isBare).length ≤ 1)
    {text : List Char} {xs ys : List (List Char)} (hx : t.IsSplit text xs)
    (hy : t.IsSplit text ys) : xs = ys := by
  obtain ⟨twins, hfields, rfl, rfl, hrow⟩ := exists_twins_of_isSplit hx hy
  by_contra ne
  obtain ⟨before, p, after, rfl, hp, hbehind, hrest⟩ :=
    Twin.exists_first_difference hrow (exists_ne_of_map_ne ne)
  obtain ⟨between, q, behind, rfl, -, hbefore⟩ := Twin.exists_last_difference hp hrest
  have hbare : p.field.isBare = true := Twin.isBare_of_continuesBehind hbehind
  have hbare' : q.field.isBare = true := Twin.isBare_of_continuesBefore hbefore
  rw [← hfields] at one
  simp only [List.map_append, List.map_cons, List.filter_append, List.filter_cons_of_pos hbare,
    List.filter_cons_of_pos hbare', List.length_append, List.length_cons] at one
  omega

end Template

end TypedNames
