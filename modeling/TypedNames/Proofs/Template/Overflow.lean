import TypedNames.Proofs.Template.Rewriting
import TypedNames.Proofs.Template.Unambiguous

/-!
# Numbers that are out of range

The pattern of a number has no bound on its digits, so a name can hold a number that is too large
for the kind of its field. An integer that is too large is a fault when the name is read. A number
in fixed-point that is too large is read as an infinity, and an infinity cannot be written. So what
is read from a name can be written again exactly when no token is out of range, and each template
with a field of numbers in fixed-point has a name that is read but not written again.

## Main definitions

* `Field.integerFault`, `Field.infinityFault` — what reading and writing answer to numbers that are
  out of range.
* `Template.IsFirst` — a field and its token are the first ones with a property.

## Main results

* `Field.read_eq_error_iff` — a token is not read exactly when it is an integer out of range.
* `Field.write_eq_ok_of_read`, `Field.write_eq_error_of_read` — which values that were read can be
  written.
* `Template.exists_unwritable` — a name whose numbers in fixed-point are all too large.
* `Template.writable_iff_inRange` — which records that were read can be written.
-/

set_option autoImplicit false

namespace TypedNames

/-! ## One token -/

namespace Field

/-- The fault of an integer out of range, when it is read. -/
def integerFault (f : Field) (token : List Char) : Fault :=
  .unreadable f.name (String.ofList token) (.int (Integer.excess (Format.isNegative token)))

/-- The fault of an infinity with the sign of the token, when it is written. -/
def infinityFault (f : Field) (token : List Char) : Fault :=
  .unwritable f.name (.notFinite (.infinite (Format.isNegative token)))

variable {f : Field} {token : List Char} {v : Value} {e : Fault}

/-- The tokens of a field of integers are those of an integer format. -/
theorem exists_int_of_matches (hint : f.format.kind = .int) (h : f.pattern.Matches token) :
    ∃ width, f.format = .int width ∧ (Format.int width).InRange ∧
      (Format.int width).pattern.Matches token := by
  obtain ⟨width, hformat⟩ := Format.kind_eq_int_iff.1 hint
  exact ⟨width, hformat, hformat ▸ f.inRange, hformat ▸ h⟩

/-- **A token that matches is not read exactly when it is an integer out of range.** -/
theorem read_eq_error_iff (h : f.pattern.Matches token) :
    f.read token = .error e ↔
      (f.format.kind = .int ∧ f.format.outOfRange token = true) ∧ e = f.integerFault token := by
  have hread : f.read token = (f.format.read token).mapError fun cause =>
    .unreadable f.name (String.ofList token) cause := rfl
  by_cases hint : f.format.kind = .int
  · obtain ⟨width, hformat, hrange, hmatches⟩ := exists_int_of_matches hint h
    rw [hread, hformat, Format.read_int hrange hmatches]
    split
    · next hout => simp [Except.mapError, integerFault, Format.kind, hout, eq_comm]
    · next hout => simp [Except.mapError, hout]
  · obtain ⟨v, hv⟩ := Format.exists_read_of_kind_ne f.inRange h hint
    simp [hread, hv, hint, Except.mapError]

/-- **What is read from a token in range can be written.** -/
theorem write_eq_ok_of_read (h : f.pattern.Matches token) (hread : f.read token = .ok v)
    (hin : f.format.outOfRange token = false) :
    v.isFinite = true ∧ ∃ again, f.write v = .ok again := by
  have hread' := read_eq_ok_iff.1 hread
  have hfinite := (Format.isFinite_iff_of_read f.inRange h hread').2 hin
  obtain ⟨⟨again, hwrites⟩, -, -⟩ := Format.exists_writes_of_read h hread' hfinite
  exact ⟨hfinite, again, write_eq_ok_iff.2 hwrites⟩

/-- **What is read from a token out of range is an infinity**, and it cannot be written. -/
theorem write_eq_error_of_read (h : f.pattern.Matches token) (hread : f.read token = .ok v)
    (hout : f.format.outOfRange token = true) :
    f.format.kind = .float ∧ v = .float (.infinite (Format.isNegative token)) ∧
      f.write v = .error (f.infinityFault token) := by
  have hread' := read_eq_ok_iff.1 hread
  have hkind : f.format.kind = .float := by
    have hinfinite : ¬ v.isFinite = true := by
      rw [Format.isFinite_iff_of_read f.inRange h hread', hout]
      exact Bool.noConfusion
    have hv := Format.kind_of_read hread'
    cases v with
    | float x => exact hv.symm
    | bool b => exact absurd rfl hinfinite
    | int n => exact absurd rfl hinfinite
    | str s => exact absurd rfl hinfinite
  obtain ⟨i, d, hformat⟩ := Format.kind_eq_float_iff.1 hkind
  rw [hformat] at hread' hout
  have hrange : (Format.fixed i d).InRange := hformat ▸ f.inRange
  have hmatches : (Format.fixed i d).pattern.Matches token := hformat ▸ h
  rw [Format.read_fixed hrange hmatches,
    Format.ofQuotient_eq_infinite_iff_outOfRange.2 hout] at hread'
  obtain rfl := Except.ok.inj hread'
  refine ⟨hkind, rfl, ?_⟩
  rw [write_float hformat, infinityFault]
  simp only [writeFixed]

end Field

/-! ## Tokens for a template -/

namespace Format

/-- A nine with enough zeros behind it is out of range in a fixed-point format.

**Proof sketch.** With 1024 zeros in front of the point the number is at least `10¹⁰²⁴`, and the
bound is less than `2¹⁰²⁴`. -/
theorem exists_outOfRange (i d : Nat) : ∃ token,
    (Format.fixed i d).pattern.Matches token ∧ (Format.fixed i d).outOfRange token = true := by
  -- the exponent stays a variable, so that no power of it is evaluated
  obtain ⟨n, hn⟩ : ∃ n, n = 1024 := ⟨_, rfl⟩
  obtain ⟨whole, hwhole⟩ : ∃ whole, whole = '9' :: List.replicate (i + n) '0' := ⟨_, rfl⟩
  obtain ⟨fraction, hfraction⟩ : ∃ fraction, fraction = List.replicate d '0' := ⟨_, rfl⟩
  have hdigits₁ : IsDigits whole := by
    intro c hc
    rw [hwhole, List.mem_cons, List.mem_replicate] at hc
    rcases hc with rfl | ⟨-, rfl⟩ <;> decide
  have hdigits₂ : IsDigits fraction := by
    intro c hc
    rw [hfraction, List.mem_replicate] at hc
    rw [hc.2]
    decide
  refine ⟨whole ++ '.' :: fraction, matches_fixed_iff.2 ⟨[], whole, fraction, rfl, .inl rfl,
    ⟨?_, hdigits₁⟩, ?_, hdigits₂⟩, ?_⟩
  · rw [hwhole, List.length_cons, List.length_replicate]
    omega
  · rw [hfraction, List.length_replicate]
  · have hnumber : number (whole ++ '.' :: fraction) =
        Integer.ofDigits ('9' :: List.replicate (i + n + d) '0') := by
      rw [number, List.filter_append, List.filter_cons_of_neg (by decide),
        List.filter_eq_self.2 hdigits₁, List.filter_eq_self.2 hdigits₂, hwhole, hfraction,
        List.cons_append, List.replicate_append_replicate]
    have hle : 10 ^ (i + n + d) ≤ number (whole ++ '.' :: fraction) := by
      have hnine : 10 ^ (List.replicate (i + n + d) '0').length ≤ _ :=
        Integer.le_ofDigits_of_ne_zero (by decide : '9'.isDigit = true) (by decide)
      rwa [List.length_replicate, ← hnumber] at hnine
    have hbound : Binary64.overflowBound ≤ 10 ^ n := by
      unfold Binary64.overflowBound
      rw [← hn]
      exact Nat.le_trans (Nat.sub_le _ _) (Nat.pow_le_pow_left (by decide) n)
    rw [outOfRange, decide_eq_true_eq]
    calc Binary64.overflowBound * 10 ^ d ≤ 10 ^ n * 10 ^ d := Nat.mul_le_mul_right _ hbound
      _ = 10 ^ (n + d) := (Nat.pow_add 10 n d).symm
      _ ≤ 10 ^ (i + n + d) := Nat.pow_le_pow_right (by decide) (by omega)
      _ ≤ number (whole ++ '.' :: fraction) := hle

/-- Every format has a token without underscores that is out of range exactly if it is a format of
numbers in fixed-point. -/
theorem exists_outOfRange_iff_float {format : Format} (range : format.InRange) : ∃ token,
    format.pattern.Matches token ∧ '_' ∉ token ∧
      (format.outOfRange token = true ↔ format.kind = .float) := by
  cases format with
  | fixed i d =>
    obtain ⟨token, hmatches, hout⟩ := exists_outOfRange i d
    exact ⟨token, hmatches, underscore_notMem_of_matches (by simp [kind]) hmatches,
      iff_of_true hout rfl⟩
  | bool =>
    exact ⟨_, matches_boolToken true, by decide, iff_of_false Bool.noConfusion (by simp [kind])⟩
  | int width =>
    have hmatches := matches_intToken width 0
    refine ⟨_, hmatches, underscore_notMem_of_matches (by simp [kind]) hmatches, ?_⟩
    refine iff_of_false (fun hout => ?_) (by simp [kind])
    have hread := read_of_writes range (.int width 0)
    rw [read_int range hmatches, if_pos hout] at hread
    simp at hread
  | str padding =>
    rcases padding with _ | ⟨n, side⟩
    · exact ⟨['0'], matches_str_iff.2 ⟨by simp, List.all_eq_true.1 (by decide)⟩, by decide,
        iff_of_false Bool.noConfusion (by simp [kind])⟩
    · refine ⟨List.replicate n '0', matches_sizedStr_iff.2 ⟨List.length_replicate, ?_⟩, ?_,
        iff_of_false Bool.noConfusion (by simp [kind])⟩
      · intro c hc
        rw [(List.mem_replicate.1 hc).2]
        decide
      · simp [List.mem_replicate]

end Format

/-! ## Names -/

namespace Template

/-- The field and its token are the first of the pairs that have the property. -/
def IsFirst (P : Field → List Char → Prop) (pairs : List (Field × List Char)) (f : Field)
    (token : List Char) : Prop :=
  ∃ before after, pairs = before ++ (f, token) :: after ∧
    (∀ pair ∈ before, ¬ P pair.1 pair.2) ∧ P f token

variable {t : Template} {name : String} {tokens : List (List Char)} {r : Record} {e : Fault}

/-- **A name whose tokens are known is not read exactly when an integer is out of range.** -/
theorem read_eq_error_iff_isFirst (h : t.tokens? name.toList = some tokens) :
    t.read name = .error e ↔ ∃ f token, IsFirst (fun f token => f.format.kind = .int ∧
      f.format.outOfRange token = true) (t.fields.zip tokens) f token ∧
        e = f.integerFault token := by
  have hmatches := (isSplit_of_tokens? h).matchesToken
  rw [read_eq_error_iff h]
  constructor
  · rintro ⟨before, f, token, after, hzip, hbefore, hfault⟩
    rw [hzip] at hmatches
    obtain ⟨hint, rfl⟩ := (Field.read_eq_error_iff (hmatches (f, token) (by simp))).1 hfault
    refine ⟨f, token, ⟨before, after, hzip, ?_, hint⟩, rfl⟩
    intro pair hpair hint'
    obtain ⟨v, hv⟩ := hbefore pair hpair
    have herror := (Field.read_eq_error_iff (hmatches pair (by simp [hpair]))).2 ⟨hint', rfl⟩
    simp [hv] at herror
  · rintro ⟨f, token, ⟨before, after, hzip, hbefore, hint⟩, rfl⟩
    rw [hzip] at hmatches
    refine ⟨before, f, token, after, hzip, ?_,
      (Field.read_eq_error_iff (hmatches (f, token) (by simp))).2 ⟨hint, rfl⟩⟩
    intro pair hpair
    cases hread : pair.1.read pair.2 with
    | ok v => exact ⟨v, rfl⟩
    | error e' =>
      have hint' := (Field.read_eq_error_iff (hmatches pair (by simp [hpair]))).1 hread
      exact absurd hint'.1 (hbefore pair hpair)

/-- A token that was read gives its field a value, which can be written if the token is in range and
is an infinity otherwise. -/
theorem write_of_read (h : t.tokens? name.toList = some tokens) (hread : t.read name = .ok r)
    {pair : Field × List Char} (hpair : pair ∈ t.fields.zip tokens) :
    ∃ v, r.get? pair.1.name = some v ∧
      (v.isFinite = true ↔ pair.1.format.outOfRange pair.2 = false) ∧
      (pair.1.format.outOfRange pair.2 = false → ∃ again, pair.1.write v = .ok again) ∧
      (pair.1.format.outOfRange pair.2 = true →
        pair.1.write v = .error (pair.1.infinityFault pair.2)) := by
  have hmatches := (isSplit_of_tokens? h).matchesToken pair hpair
  obtain ⟨v, hv, htoken⟩ := Reads.get?_eq ((read_eq_ok_iff h).1 hread) pair hpair
  exact ⟨v, hv, Format.isFinite_iff_of_read pair.1.inRange hmatches (Field.read_eq_ok_iff.1 htoken),
    fun hin => (Field.write_eq_ok_of_read hmatches htoken hin).2,
    fun hout => (Field.write_eq_error_of_read hmatches htoken hout).2.2⟩

/-- **What was read from a name can be written exactly when no token is out of range.** -/
theorem exists_write_iff_inRange (h : t.tokens? name.toList = some tokens)
    (hread : t.read name = .ok r) :
    (∃ again, t.write r = .ok again) ↔
      ∀ pair ∈ t.fields.zip tokens, pair.1.format.outOfRange pair.2 = false := by
  rw [exists_write_iff (names_eq_of_read hread)]
  constructor
  · intro hwrite pair hpair
    obtain ⟨v, hv, -, -, hout⟩ := write_of_read h hread hpair
    obtain ⟨w, token, hw, hok⟩ := hwrite pair.1 (List.of_mem_zip hpair).1
    obtain rfl := Option.some.inj (hv.symm.trans hw)
    by_contra hrange
    rw [Bool.not_eq_false] at hrange
    simp [hout hrange] at hok
  · intro hin f hf
    obtain ⟨token, hpair⟩ := (isSplit_of_tokens? h).exists_token f hf
    obtain ⟨v, hv, -, hok, -⟩ := write_of_read h hread hpair
    obtain ⟨again, hagain⟩ := hok (hin _ hpair)
    exact ⟨v, again, hv, hagain⟩

/-- **What was read from a name has finite numbers only exactly when no token is out of range.** -/
theorem isFinite_iff_inRange (h : t.tokens? name.toList = some tokens)
    (hread : t.read name = .ok r) :
    (∀ entry ∈ r.entries, entry.2.isFinite = true) ↔
      ∀ pair ∈ t.fields.zip tokens, pair.1.format.outOfRange pair.2 = false := by
  have hreads := (read_eq_ok_iff h).1 hread
  constructor
  · intro hfinite pair hpair
    obtain ⟨v, hv, hrange, -⟩ := write_of_read h hread hpair
    exact hrange.1 (hfinite _ (Record.get?_eq_some_iff.1 hv))
  · intro hin entry hentry
    obtain ⟨pair, hpair, hname, -⟩ := exists_mem_of_forall₂ hreads.flip entry hentry
    obtain ⟨v, hv, hrange, -⟩ := write_of_read h hread hpair
    have hvalue : r.get? pair.1.name = some entry.2 := by
      rw [← hname]
      exact Record.get?_eq_some_iff.2 hentry
    obtain rfl := Option.some.inj (hv.symm.trans hvalue)
    exact hrange.2 (hin pair hpair)

/-- **What was read from a name is written with the fault of the first token out of range.** -/
theorem write_eq_error_iff_isFirst (h : t.tokens? name.toList = some tokens)
    (hread : t.read name = .ok r) :
    t.write r = .error e ↔ ∃ f token, IsFirst (fun f token => f.format.outOfRange token = true)
      (t.fields.zip tokens) f token ∧ e = f.infinityFault token := by
  have hfields : (t.fields.zip tokens).map Prod.fst = t.fields :=
    List.map_fst_zip (Nat.le_of_eq (isSplit_of_tokens? h).length_eq.symm)
  have hfirst {f : Field} {token : List Char}
      (first : IsFirst (fun f token => f.format.outOfRange token = true) (t.fields.zip tokens)
        f token) : t.write r = .error (f.infinityFault token) := by
    obtain ⟨before, after, hzip, hbefore, hout⟩ := first
    have hsplit : t.fields = before.map Prod.fst ++ f :: after.map Prod.fst := by
      rw [← hfields, hzip, List.map_append, List.map_cons]
    have hmem : (f, token) ∈ t.fields.zip tokens := by simp [hzip]
    obtain ⟨v, hv, -, -, hfault⟩ := write_of_read h hread hmem
    refine write_eq_error_of_first (names_eq_of_read hread) hsplit ?_ hv (hfault hout)
    intro g hg
    obtain ⟨pair, hpair, rfl⟩ := List.mem_map.1 hg
    have hmem : pair ∈ t.fields.zip tokens := by simp [hzip, hpair]
    obtain ⟨w, hw, -, hok, -⟩ := write_of_read h hread hmem
    obtain ⟨again, hagain⟩ := hok (by simpa using hbefore pair hpair)
    exact ⟨w, again, hw, hagain⟩
  constructor
  · intro hwrite
    have hsome : ∃ pair ∈ t.fields.zip tokens, pair.1.format.outOfRange pair.2 = true := by
      by_contra hnone
      obtain ⟨again, hagain⟩ := (exists_write_iff_inRange h hread).2 fun pair hpair => by
        simpa using fun hout => hnone ⟨pair, hpair, hout⟩
      simp [hwrite] at hagain
    obtain ⟨before, ⟨f, token⟩, after, hzip, hout, hbefore⟩ := exists_first hsome
    have first : IsFirst (fun f token => f.format.outOfRange token = true) (t.fields.zip tokens)
        f token := ⟨before, after, hzip, hbefore, hout⟩
    exact ⟨f, token, first, Except.error.inj (hwrite.symm.trans (hfirst first))⟩
  · rintro ⟨f, token, first, rfl⟩
    exact hfirst first

/-- **A template with a field of numbers in fixed-point has a name that is read but not written
again.**

**Proof sketch.** In the name the numbers in fixed-point are out of range, the integers are not, and
the texts have no underscores. So the name is split into these tokens and is read. -/
theorem exists_unwritable {f : Field} (hf : f ∈ t.fields) (hkind : f.format.kind = .float) :
    ∃ name r, t.read name = .ok r ∧ ∀ again, t.write r ≠ .ok again := by
  obtain ⟨tokens, htokens⟩ : ∃ tokens, List.Forall₂ (fun (g : Field) token =>
      g.pattern.Matches token ∧ '_' ∉ token ∧
        (g.format.outOfRange token = true ↔ g.format.kind = .float)) t.fields tokens :=
    exists_forall₂_of_forall_mem fun g _ => Format.exists_outOfRange_iff_float g.inRange
  have hrange : ∀ pair ∈ t.fields.zip tokens,
      pair.1.format.outOfRange pair.2 = true ↔ pair.1.format.kind = .float :=
    fun pair hpair => ((List.forall₂_iff_zip.1 htokens).2 hpair).2.2
  have hsplit : t.IsSplit (String.ofList (t.spell tokens)).toList tokens :=
    isSplit_iff.2 ⟨htokens.imp fun g token hg => hg.1, by rw [String.toList_ofList]⟩
  have hfree : ∀ token ∈ tokens, '_' ∉ token :=
    forall_mem_of_forall₂ (htokens.imp fun g token hg => hg.2.1).flip
  have h := tokens?_of_notMem hsplit hfree
  cases hread : t.read (String.ofList (t.spell tokens)) with
  | error e =>
    obtain ⟨g, token, ⟨before, after, hzip, -, hint, hout⟩, -⟩ :=
      (read_eq_error_iff_isFirst h).1 hread
    rw [(hrange (g, token) (by simp [hzip])).1 hout] at hint
    exact absurd hint (by decide)
  | ok r =>
    refine ⟨_, r, hread, fun again hagain => ?_⟩
    obtain ⟨token, hpair⟩ := hsplit.exists_token f hf
    have hin := (exists_write_iff_inRange h hread).1 ⟨again, hagain⟩ _ hpair
    rw [(hrange _ hpair).2 hkind] at hin
    exact Bool.noConfusion hin

/-- Without numbers in fixed-point, what was read from a name can be written. -/
theorem exists_write_of_read (hfields : ∀ f ∈ t.fields, f.format.kind ≠ .float)
    (hread : t.read name = .ok r) : ∃ again, t.write r = .ok again := by
  obtain ⟨tokens, h, hsplit, hreads⟩ := exists_split_of_read hread
  rw [exists_write_iff_inRange h hread]
  intro pair hpair
  by_contra hout
  rw [Bool.not_eq_false] at hout
  obtain ⟨v, -, htoken⟩ := hreads.get?_eq pair hpair
  exact hfields pair.1 (List.of_mem_zip hpair).1
    (Field.write_eq_error_of_read (hsplit.matchesToken pair hpair) htoken hout).1

/-- **Which records that were read can be written.** A token that matches and is in range is read as
a finite value that can be written. An integer out of range is not read, and a number in fixed-point
out of range is read as an infinity, which cannot be written. So a name is not read because of its
first integer out of range, and what is read from it is not written because of its first number in
fixed-point out of range. A template can write whatever it reads exactly when it has no field of
numbers in fixed-point. -/
theorem writable_iff_inRange (t : Template) :
    (∀ (f : Field) token, f.pattern.Matches token →
      (f.format.outOfRange token = false → ∃ v again, f.read token = .ok v ∧
        v.isFinite = true ∧ f.write v = .ok again) ∧
      (f.format.outOfRange token = true →
        f.format.kind = .int ∧ f.read token = .error (f.integerFault token) ∨
        f.format.kind = .float ∧
          f.read token = .ok (.float (.infinite (Format.isNegative token))) ∧
          f.write (.float (.infinite (Format.isNegative token))) =
            .error (f.infinityFault token))) ∧
    (∀ name tokens, t.tokens? name.toList = some tokens →
      (∀ e, t.read name = .error e ↔ ∃ f token, IsFirst (fun f token => f.format.kind = .int ∧
        f.format.outOfRange token = true) (t.fields.zip tokens) f token ∧
          e = f.integerFault token) ∧
      ∀ r, t.read name = .ok r →
        ((∀ entry ∈ r.entries, entry.2.isFinite = true) ↔
          ∀ pair ∈ t.fields.zip tokens, pair.1.format.outOfRange pair.2 = false) ∧
        ((∃ again, t.write r = .ok again) ↔
          ∀ pair ∈ t.fields.zip tokens, pair.1.format.outOfRange pair.2 = false) ∧
        ∀ e, t.write r = .error e ↔
          ∃ f token, IsFirst (fun f token => f.format.outOfRange token = true)
            (t.fields.zip tokens) f token ∧ e = f.infinityFault token) ∧
    ((∀ name r, t.read name = .ok r → ∃ again, t.write r = .ok again) ↔
      ∀ f ∈ t.fields, f.format.kind ≠ .float) := by
  refine ⟨?_, ?_, ?_⟩
  · intro f token hmatches
    cases hread : f.read token with
    | error e =>
      obtain ⟨⟨hint, hout⟩, rfl⟩ := (Field.read_eq_error_iff hmatches).1 hread
      exact ⟨fun hin => absurd (hin.symm.trans hout) (by decide), fun _ => .inl ⟨hint, rfl⟩⟩
    | ok v =>
      constructor
      · intro hin
        obtain ⟨hfinite, again, hwrite⟩ := Field.write_eq_ok_of_read hmatches hread hin
        exact ⟨v, again, rfl, hfinite, hwrite⟩
      · intro hout
        obtain ⟨hkind, rfl, hwrite⟩ := Field.write_eq_error_of_read hmatches hread hout
        exact .inr ⟨hkind, rfl, hwrite⟩
  · intro name tokens h
    exact ⟨fun e => read_eq_error_iff_isFirst h, fun r hread => ⟨isFinite_iff_inRange h hread,
      exists_write_iff_inRange h hread, fun e => write_eq_error_iff_isFirst h hread⟩⟩
  · constructor
    · intro hall f hf hkind
      obtain ⟨name, r, hread, hnone⟩ := exists_unwritable hf hkind
      obtain ⟨again, hagain⟩ := hall name r hread
      exact hnone again hagain
    · intro hfields name r hread
      exact exists_write_of_read hfields hread

end Template

end TypedNames
