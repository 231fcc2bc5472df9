import TypedNames.Proofs.Integer.Numerals
import TypedNames.Proofs.Template.Overflow

/-!
# Names that match and are not read

A name that matches the pattern of its template has a token for each field. A field reads its token
unless this is the numeral of an integer that does not have 64 bits, so there is only one reason for
which such a name is not read: some field of integers has a token out of range. The fault tells the
first of these fields, its token, and whether the integer is too large or too small.

## Main definitions

* `Field.Overflows` — a field of integers has a token out of range.
* `Template.readOr` — reading, with any answer to a field without a token.

## Main results

* `Field.read_of_denotes` — what a field of integers makes of a numeral.
* `Field.exists_read_of_kind_ne` — fields of other kinds read every token that their patterns match.
* `Template.read_eq_error_iff_overflows`, `Template.read_eq_unreadable_iff` — the fault of a name
  that matches.
* `Template.readOr_eq_read` — a field without a token is never met.
* `Template.unreadable_iff_overflows` — which names that match are not read, and what is told.
-/

set_option autoImplicit false

namespace TypedNames

/-! ## One token -/

namespace Field

/-- **A field of integers has a token out of range**: the token denotes an integer that does not
have 64 bits. -/
def Overflows (f : Field) (token : List Char) : Prop :=
  f.format.kind = .int ∧ ∃ n, Integer.Denotes token n ∧ ¬ Integer.InRange n

variable {f : Field} {token : List Char} {n : Int}

/-- A token of a field of integers denotes an integer. -/
theorem exists_denotes (hint : f.format.kind = .int) (h : f.pattern.Matches token) :
    ∃ n, Integer.Denotes token n := by
  obtain ⟨width, -, hrange, hmatches⟩ := exists_int_of_matches hint h
  exact Format.exists_denotes hrange hmatches

/-- **A field of integers reads a token as the integer that it denotes**, or answers with the side
on which this lies out of range. -/
theorem read_of_denotes (hint : f.format.kind = .int) (h : f.pattern.Matches token)
    (hn : Integer.Denotes token n) :
    f.read token = if Integer.InRange n then .ok (.int (Int64.ofInt n))
      else .error (.unreadable f.name (String.ofList token) (.int (Integer.beyond n))) := by
  obtain ⟨width, hformat, hrange, hmatches⟩ := exists_int_of_matches hint h
  rw [read, hformat, Format.read_of_denotes hrange hmatches hn]
  split <;> rfl

/-- **A numeral in the range is read as exactly its integer.** -/
theorem exists_read_of_inRange (hint : f.format.kind = .int) (h : f.pattern.Matches token)
    (hn : Integer.Denotes token n) (hin : Integer.InRange n) :
    ∃ i : Int64, i.toInt = n ∧ f.read token = .ok (.int i) := by
  refine ⟨Int64.ofInt n, Int64.toInt_ofInt_of_le hin.1 hin.2, ?_⟩
  rw [read_of_denotes hint h hn, if_pos hin]

/-- **Fields of other kinds read every token that their patterns match.** -/
theorem exists_read_of_kind_ne (other : f.format.kind ≠ .int) (h : f.pattern.Matches token) :
    ∃ v, f.read token = .ok v ∧ v.kind = f.format.kind := by
  obtain ⟨v, hv⟩ := Format.exists_read_of_kind_ne f.inRange h other
  exact ⟨v, read_eq_ok_iff.2 hv, Format.kind_of_read hv⟩

/-- A token of a field of integers is out of range exactly if its integer is. -/
theorem overflows_iff (h : f.pattern.Matches token) :
    f.Overflows token ↔ f.format.kind = .int ∧ f.format.outOfRange token = true := by
  refine and_congr_right fun hint => ?_
  obtain ⟨n, hn⟩ := exists_denotes hint h
  obtain ⟨width, hformat, -⟩ := exists_int_of_matches hint h
  rw [hformat, Format.outOfRange_iff_of_denotes hn]
  constructor
  · rintro ⟨m, hm, hout⟩
    exact hm.unique hn ▸ hout
  · exact fun hout => ⟨n, hn, hout⟩

/-- The fault of an integer out of range tells on which side the integer lies. -/
theorem integerFault_of_denotes (hn : Integer.Denotes token n) (hout : ¬ Integer.InRange n) :
    f.integerFault token =
      .unreadable f.name (String.ofList token) (.int (Integer.beyond n)) := by
  rw [hn.eq_signed] at hout ⊢
  rw [integerFault, Integer.beyond_signed hout]

end Field

/-- How the fault of an integer out of range is told. -/
theorem Fault.message_beyond (field token : String) (n : Int) :
    (Fault.unreadable field token (.int (Integer.beyond n))).message =
      "Cannot decode field '" ++ field ++ "': '" ++ token ++ "' is not a valid " ++ "int" ++ ": " ++
        if n < 0 then "number too small to fit in target type"
        else "number too large to fit in target type" := by
  rw [Integer.beyond]
  split <;> rfl

/-! ## Names -/

namespace Template

variable {t : Template} {name : String} {tokens : List (List Char)} {e : Fault}
variable {P Q : Field → List Char → Prop} {pairs : List (Field × List Char)} {f : Field}
variable {token : List Char}

/-- The first pair with a property has it. -/
theorem IsFirst.holds (h : IsFirst P pairs f token) : P f token := by
  obtain ⟨-, -, -, -, hP⟩ := h
  exact hP

/-- The first pair with a property is also the first one with another property that says the same of
each pair. -/
theorem isFirst_congr (h : ∀ pair ∈ pairs, P pair.1 pair.2 ↔ Q pair.1 pair.2) :
    IsFirst P pairs f token ↔ IsFirst Q pairs f token := by
  refine exists_congr fun before => exists_congr fun after => and_congr_right fun hpairs => ?_
  subst hpairs
  refine and_congr (forall₂_congr fun pair hpair => not_congr ?_) (h (f, token) (by simp))
  exact h pair (by simp [hpair])

/-- **A name that matches is not read exactly if a field of integers has a token out of range**, and
the fault is that of the first one. -/
theorem read_eq_error_iff_overflows (h : t.tokens? name.toList = some tokens) :
    t.read name = .error e ↔ ∃ f token n, IsFirst Field.Overflows (t.fields.zip tokens) f token ∧
      Integer.Denotes token n ∧
        e = .unreadable f.name (String.ofList token) (.int (Integer.beyond n)) := by
  have hmatches := (isSplit_of_tokens? h).matchesToken
  rw [read_eq_error_iff_isFirst h]
  refine exists_congr fun f => exists_congr fun token => ?_
  rw [← isFirst_congr fun pair hpair => Field.overflows_iff (hmatches pair hpair)]
  constructor
  · rintro ⟨first, rfl⟩
    obtain ⟨-, n, hn, hout⟩ := first.holds
    exact ⟨n, first, hn, Field.integerFault_of_denotes hn hout⟩
  · rintro ⟨n, first, hn, rfl⟩
    obtain ⟨-, m, hm, hout⟩ := first.holds
    obtain rfl := hm.unique hn
    exact ⟨first, (Field.integerFault_of_denotes hm hout).symm⟩

/-- The fault of a name that matches and is not read: the first field of integers with a token out
of range, its token, and the side on which the integer lies. -/
theorem read_eq_unreadable_iff {field token : String} {cause : ReadFault} :
    t.read name = .error (.unreadable field token cause) ↔
      ∃ tokens f n, t.tokens? name.toList = some tokens ∧
        IsFirst Field.Overflows (t.fields.zip tokens) f token.toList ∧
          Integer.Denotes token.toList n ∧ field = f.name ∧ cause = .int (Integer.beyond n) := by
  cases h : t.tokens? name.toList with
  | none => simp [read, h]
  | some tokens =>
    rw [read_eq_error_iff_overflows h]
    constructor
    · rintro ⟨f, token, n, first, hn, he⟩
      obtain ⟨rfl, rfl, rfl⟩ := Fault.unreadable.inj he
      exact ⟨tokens, f, n, rfl, by rwa [String.toList_ofList], by rwa [String.toList_ofList], rfl,
        rfl⟩
    · rintro ⟨_, f, n, htokens, first, hn, rfl, rfl⟩
      obtain rfl := Option.some.inj htokens
      exact ⟨f, token.toList, n, first, hn, by rw [String.ofList_toList]⟩

/-- A name is unreadable exactly if it matches and a field of integers has a token out of range. -/
theorem exists_read_eq_unreadable_iff :
    (∃ field token cause, t.read name = .error (.unreadable field token cause)) ↔
      ∃ tokens, t.tokens? name.toList = some tokens ∧
        ∃ pair ∈ t.fields.zip tokens, pair.1.Overflows pair.2 := by
  constructor
  · rintro ⟨field, token, cause, hread⟩
    obtain ⟨tokens, f, n, h, ⟨before, after, hzip, -, hover⟩, -⟩ := read_eq_unreadable_iff.1 hread
    exact ⟨tokens, h, (f, token.toList), by simp [hzip], hover⟩
  · rintro ⟨tokens, h, hsome⟩
    obtain ⟨before, ⟨f, token⟩, after, hzip, hover, hbefore⟩ := exists_first hsome
    have first : IsFirst Field.Overflows (t.fields.zip tokens) f token :=
      ⟨before, after, hzip, hbefore, hover⟩
    obtain ⟨-, n, hn, -⟩ := first.holds
    exact ⟨_, _, _, (read_eq_error_iff_overflows h).2 ⟨f, token, n, first, hn, rfl⟩⟩

/-! ## Fields without a token -/

/-- What a field makes of its token, where `absent` is the answer to a field whose place among the
tokens is empty. -/
def entryOr (absent : Field → Fault) (tokens : List (List Char)) (place : Field × Nat) :
    Except Fault (String × Value) :=
  match tokens[place.2]? with
  | some token => do
    let value ← place.1.read token
    return (place.1.name, value)
  | none => .error (absent place.1)

/-- Reading a name, where `absent` is the answer to a field without a token. -/
def readOr (absent : Field → Fault) (t : Template) (name : String) : Except Fault Record :=
  match t.tokens? name.toList with
  | none => .error (.noMatch name t.pattern)
  | some tokens => do
    let entries ← t.fields.zipIdx.mapM (entryOr absent tokens)
    return Record.ofList entries

/-- With a token for each field, looking up the places of the fields is going through the fields
and the tokens together. The induction is on the fields, and `front` holds the tokens of those
before. -/
theorem mapM_entryOr (absent : Field → Fault) {fields : List Field} (front : List (List Char))
    {tokens : List (List Char)} (h : tokens.length = fields.length) :
    (fields.zipIdx front.length).mapM (entryOr absent (front ++ tokens)) =
      (fields.zip tokens).mapM fun pair => do
        let value ← pair.1.read pair.2
        return (pair.1.name, value) := by
  induction fields generalizing front tokens with
  | nil => rfl
  | cons f rest ih =>
    obtain ⟨token, tokens, rfl⟩ := List.exists_cons_of_length_eq_add_one h
    have hhere : entryOr absent (front ++ token :: tokens) (f, front.length) = do
        let value ← f.read token
        return (f.name, value) := by
      simp [entryOr]
    have hrest := ih (front ++ [token]) (Nat.succ.inj h)
    rw [List.length_append, List.length_singleton, List.append_assoc,
      List.singleton_append] at hrest
    rw [List.zipIdx_cons, List.zip_cons_cons, List.mapM_cons, List.mapM_cons, hhere, hrest]

/-- **A field without a token is never met**: whatever is answered to it, the same is read. -/
theorem readOr_eq_read (absent : Field → Fault) (t : Template) (name : String) :
    t.readOr absent name = t.read name := by
  rw [readOr, read]
  cases h : t.tokens? name.toList with
  | none => rfl
  | some tokens =>
    have hentries := mapM_entryOr absent [] (isSplit_of_tokens? h).length_eq
    exact congrArg (· >>= fun entries => .ok (Record.ofList entries)) hentries

/-! ## Which names are not read -/

/-- **A name is unreadable although it matches** exactly if a field of integers has a token out of
range. The fault tells the first such field with its token, and that the number is too small if it
is negative and too large otherwise. The fields of other kinds read their tokens, whatever these
are. So do the fields of integers whose tokens are in range, also with zeros in front or with a
minus at a zero. A field without a token is never met. -/
theorem unreadable_iff_overflows (t : Template) (name : String) :
    ((∃ field token cause, t.read name = .error (.unreadable field token cause)) ↔
      ∃ tokens, t.tokens? name.toList = some tokens ∧
        ∃ pair ∈ t.fields.zip tokens, pair.1.Overflows pair.2) ∧
    (∀ field token cause, t.read name = .error (.unreadable field token cause) ↔
      ∃ tokens f n, t.tokens? name.toList = some tokens ∧
        IsFirst Field.Overflows (t.fields.zip tokens) f token.toList ∧
          Integer.Denotes token.toList n ∧ field = f.name ∧ cause = .int (Integer.beyond n)) ∧
    (∀ field token n, (Fault.unreadable field token (.int (Integer.beyond n))).message =
      "Cannot decode field '" ++ field ++ "': '" ++ token ++ "' is not a valid " ++ "int" ++ ": " ++
        if n < 0 then "number too small to fit in target type"
        else "number too large to fit in target type") ∧
    (∀ tokens, t.tokens? name.toList = some tokens → ∀ pair ∈ t.fields.zip tokens,
      (pair.1.format.kind ≠ .int →
        ∃ v, pair.1.read pair.2 = .ok v ∧ v.kind = pair.1.format.kind) ∧
      (pair.1.format.kind = .int → ∃ n, Integer.Denotes pair.2 n ∧
        (Integer.InRange n → ∃ i : Int64, i.toInt = n ∧ pair.1.read pair.2 = .ok (.int i)))) ∧
    ∀ absent, t.readOr absent name = t.read name := by
  refine ⟨exists_read_eq_unreadable_iff, fun _ _ _ => read_eq_unreadable_iff, Fault.message_beyond,
    fun tokens h pair hpair => ?_, fun absent => readOr_eq_read absent t name⟩
  have hmatches := (isSplit_of_tokens? h).matchesToken pair hpair
  refine ⟨fun other => Field.exists_read_of_kind_ne other hmatches, fun hint => ?_⟩
  obtain ⟨n, hn⟩ := Field.exists_denotes hint hmatches
  exact ⟨n, hn, Field.exists_read_of_inRange hint hmatches hn⟩

end Template

end TypedNames
