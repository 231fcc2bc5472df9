import TypedNames.Proofs.Json.Tokens
import TypedNames.Proofs.Record.Insertion
import TypedNames.Proofs.Template.Conversion

/-!
# Documents of records

A record is read from an object by inserting its members one after another, and the first member
that gives no name with a value decides what is wrong. A written value is a single token, and it is
read as a value of its kind unless it is a number that is not finite.

## Main definitions

* `Json.Member` — an entry of an object whose value is a single token.
* `Json.HasMembers` — the document is an object with the given names and values in order.
* `Value.IsReadAs` — what a written value may be read as.

## Main results

* `Json.parseRecord_eq` — what a document with given members is read as.
* `Json.parseRecord_eq_ok_iff` — the documents of records, and which records they are read as.
* `Json.hasMembers_pairsText`, `Json.parseRecord_pairsText_eq_error` — written pairs of names and
  values, in any layout.
-/

set_option autoImplicit false

namespace TypedNames

/-- What a value is read as after it is written: itself, or another finite number of the same sign
if it is a finite number of double precision. -/
inductive Value.IsReadAs : Value → Value → Prop
  | bool (b : Bool) : IsReadAs (.bool b) (.bool b)
  | int (i : Int64) : IsReadAs (.int i) (.int i)
  | float (negative : Bool) (m n : Binary64.Magnitude) :
    IsReadAs (.float (.finite negative m)) (.float (.finite negative n))
  | str (s : String) : IsReadAs (.str s) (.str s)

namespace Json

/-! ## Members -/

/-- An entry of an object whose value is a single token. -/
structure Member where
  /-- The pieces of the name. -/
  pieces : List Piece
  /-- The value. -/
  token : Token

namespace Member

/-- The tokens of an entry. -/
def tokens (m : Member) : List Token :=
  [.text m.pieces, .colon, m.token]

/-- The name and the value that an entry gives. -/
def read (m : Member) : Except Problem (String × Value) := do
  let name ← readText m.pieces
  let value ← readValue (maxDepth - 1) m.token []
  return (name, value)

end Member

/-- The document is an object whose entries give the pairs, in this order. -/
def HasMembers (document : String) (pairs : List (String × Value)) : Prop :=
  ∃ members : List Member, tokens document.toList = objectTokens (members.map Member.tokens) ∧
    List.Forall₂ (fun m pair => m.read = .ok pair) members pairs

/-- What stands behind an atom, and how much may be open, does not matter. -/
theorem readValue_of_isAtom {token : Token} (atom : token.isAtom = true) (room : Nat)
    (rest : List Token) : readValue room token rest = readValue (maxDepth - 1) token [] := by
  cases token <;> first | rfl | simp [Token.isAtom] at atom

/-- Only an atom is read as a value. -/
theorem isAtom_of_readValue {token : Token} {room : Nat} {rest : List Token} {v : Value}
    (h : readValue room token rest = .ok v) : token.isAtom = true := by
  cases token <;> simp only [readValue, Token.isAtom] at h ⊢ <;> split at h <;> cases h

/-- The tokens of an entry in front of others. -/
theorem rowTokens_cons (entry : List Token) {more : List (List Token)} (ne : more ≠ []) :
    rowTokens (entry :: more) = entry ++ .comma :: rowTokens more := by
  cases more with
  | nil => exact absurd rfl ne
  | cons next more => rfl

/-- The first entry is read, and then those behind it. -/
theorem readEntries_append (start : Record) {m : Member} (atom : m.token.isAtom = true)
    (rest : List Token) : readEntries start (m.tokens ++ rest) =
      m.read >>= fun pair => match rest with
        | .comma :: more => readEntries (start.insert pair.1 pair.2) more
        | .closeBrace :: more => .ok (start.insert pair.1 pair.2, more)
        | _ => .error .malformed := by
  change readEntries start (.text m.pieces :: .colon :: m.token :: rest) = _
  rw [readEntries, Member.read, readValue_of_isAtom atom]
  cases readText m.pieces with
  | error problem => rfl
  | ok name =>
    cases readValue (maxDepth - 1) m.token [] with
    | error problem => rfl
    | ok value => rfl

/-- **The entries of an object are inserted one after another**; the first one that gives no name
with a value decides what is wrong. -/
theorem readEntries_rowTokens (start : Record) {members : List Member} (ne : members ≠ [])
    (atoms : ∀ m ∈ members, m.token.isAtom = true) (rest : List Token) :
    readEntries start (rowTokens (members.map Member.tokens) ++ rest) =
      (members.mapM Member.read).map fun pairs => (start.extend pairs, rest) := by
  induction members generalizing start with
  | nil => exact absurd rfl ne
  | cons m more ih =>
    have hatom := atoms m List.mem_cons_self
    rw [List.mapM_cons, List.map_cons]
    cases more with
    | nil =>
      change readEntries start ((m.tokens ++ [.closeBrace]) ++ rest) = _
      rw [List.append_assoc, readEntries_append start hatom]
      cases m.read <;> rfl
    | cons next more =>
      have hmore (start : Record) :=
        ih start (List.cons_ne_nil next more) fun k hk => atoms k (List.mem_cons_of_mem m hk)
      rw [rowTokens_cons _ (by simp), List.append_assoc, List.cons_append,
        readEntries_append start hatom]
      cases m.read with
      | error problem => rfl
      | ok pair =>
        change readEntries (start.insert pair.1 pair.2) _ = _
        rw [hmore]
        change _ = Except.map _
          ((next :: more).mapM Member.read >>= fun pairs => pure (pair :: pairs))
        cases (next :: more).mapM Member.read <;> rfl

/-- **What a document with given members is read as**: the record that their names and values
make, or the first problem among them. -/
theorem parseRecord_eq {document : String} {members : List Member}
    (h : tokens document.toList = objectTokens (members.map Member.tokens))
    (atoms : ∀ m ∈ members, m.token.isAtom = true) :
    parseRecord document = (members.mapM Member.read).map Record.ofList := by
  rw [parseRecord, parseDocument, h, objectTokens]
  cases members with
  | nil => rfl
  | cons m more =>
    have hentries := readEntries_rowTokens .empty (List.cons_ne_nil m more) atoms []
    have hread : readRecord (.openBrace :: rowTokens ((m :: more).map Member.tokens)) =
        readEntries .empty (rowTokens ((m :: more).map Member.tokens)) := by
      cases more <;> rfl
    rw [List.append_nil] at hentries
    rw [hread, hentries]
    cases (m :: more).mapM Member.read <;> rfl

/-- Entries that are read stand there one after another, and they have been inserted. -/
theorem exists_members_of_readEntries {start r : Record} {row rest : List Token}
    (h : readEntries start row = .ok (r, rest)) : ∃ members pairs, members ≠ [] ∧
      row = rowTokens (members.map Member.tokens) ++ rest ∧
      List.Forall₂ (fun m pair => m.read = .ok pair) members pairs ∧ r = start.extend pairs := by
  fun_induction readEntries start row with
  | case1 start pieces token after ih =>
    obtain ⟨name, hname, h⟩ := bind_eq_ok_iff.1 h
    obtain ⟨value, hvalue, h⟩ := bind_eq_ok_iff.1 h
    have hread : Member.read ⟨pieces, token⟩ = .ok (name, value) := by
      rw [readValue_of_isAtom (isAtom_of_readValue hvalue)] at hvalue
      rw [Member.read, hname, hvalue]
      rfl
    split at h
    · next more =>
      obtain ⟨members, pairs, ne, rfl, hmembers, rfl⟩ := ih name value h
      refine ⟨⟨pieces, token⟩ :: members, (name, value) :: pairs, List.cons_ne_nil _ _, ?_,
        .cons hread hmembers, rfl⟩
      rw [List.map_cons, rowTokens_cons _ (by simpa using ne)]
      rfl
    · next more =>
      obtain ⟨rfl, rfl⟩ := Prod.mk.inj (Except.ok.inj h)
      exact ⟨[⟨pieces, token⟩], [(name, value)], List.cons_ne_nil _ _, rfl, .cons hread .nil, rfl⟩
    · cases h
  | case2 => cases h

/-- The members of a document that gives pairs are atoms. -/
theorem isAtom_of_read {members : List Member} {pairs : List (String × Value)}
    (h : List.Forall₂ (fun m pair => m.read = .ok pair) members pairs) :
    ∀ m ∈ members, m.token.isAtom = true := by
  induction h with
  | nil => simp
  | @cons m pair members pairs hread _ ih =>
    obtain ⟨_, _, h⟩ := bind_eq_ok_iff.1 hread
    obtain ⟨value, hvalue, _⟩ := bind_eq_ok_iff.1 h
    exact List.forall_mem_cons.2 ⟨isAtom_of_readValue hvalue, ih⟩

/-- **The documents of records**: a document is read as a record exactly when it is an object whose
members give names with values, and the record is the one that these make. -/
theorem parseRecord_eq_ok_iff {document : String} {r : Record} :
    parseRecord document = .ok r ↔
      ∃ pairs, HasMembers document pairs ∧ r = Record.ofList pairs := by
  constructor
  · intro h
    obtain ⟨⟨r', rest⟩, hread, h⟩ := bind_eq_ok_iff.1 h
    dsimp only at h
    split at h
    · next hrest =>
      obtain rfl := Except.ok.inj h
      obtain rfl := List.isEmpty_iff.1 hrest
      unfold readRecord at hread
      split at hread
      · cases hread
      · next after htokens =>
        obtain ⟨rfl, rfl⟩ := Prod.mk.inj (Except.ok.inj hread)
        exact ⟨[], ⟨[], htokens, .nil⟩, rfl⟩
      · next row _ htokens =>
        obtain ⟨members, pairs, _, rfl, hmembers, rfl⟩ := exists_members_of_readEntries hread
        exact ⟨pairs, ⟨members, htokens.trans (by rw [List.append_nil]; rfl), hmembers⟩, rfl⟩
      · cases hread
    · cases h
  · rintro ⟨pairs, ⟨members, htokens, hmembers⟩, rfl⟩
    rw [parseRecord_eq htokens (isAtom_of_read hmembers), mapM_eq_ok_iff.2 hmembers]
    rfl

/-! ## Written values -/

/-- A quoted text is read as itself. -/
theorem readText_map_pieceOf (s : String) : readText (s.toList.map pieceOf) = .ok s := by
  rw [readText, joinPieces?_map_pieceOf, Option.elim_some, String.ofList_toList]

/-- The token is what a written value consists of, and it is read as a value exactly when the
written one is no number that is not finite. -/
structure IsTokenOf (v : Value) (token : Token) : Prop where
  hasTokens : HasTokens (valueText v) [token]
  isAtom : token.isAtom = true
  readValue_ok : v.isFinite = true → ∃ w, v.IsReadAs w ∧ readValue (maxDepth - 1) token [] = .ok w
  readValue_error : v.isFinite = false →
    readValue (maxDepth - 1) token [] = .error (.mismatch .notScalar)

/-- **Every value is written as one token.** -/
theorem exists_isTokenOf (v : Value) : ∃ token, IsTokenOf v token := by
  have hnull {v : Value} (text : valueText v = ['n', 'u', 'l', 'l']) (h : v.isFinite = false) :
      IsTokenOf v .null :=
    ⟨text ▸ hasTokens_null, rfl, fun h' => absurd (h'.symm.trans h) (by decide), fun _ => rfl⟩
  cases v with
  | bool b =>
    exact ⟨.bool b, hasTokens_bool b, rfl, fun _ => ⟨_, .bool b, rfl⟩, fun h => by cases h⟩
  | int i =>
    obtain ⟨n, hspelled, hspelling, hvalue⟩ := exists_number_of_int i
    refine ⟨.number n, ?_, rfl, fun _ => ⟨_, .int i, ?_⟩, fun h => by cases h⟩
    · rw [valueText, ← hspelling]
      exact hasTokens_spelling hspelled
    · have hlt : i.toInt < Integer.halfRange := i.toInt_lt
      simp only [readValue, hvalue, Option.elim_some, Number.toValue, if_pos hlt, Int64.ofInt_toInt]
  | float x =>
    cases x with
    | nan => exact ⟨.null, hnull rfl rfl⟩
    | infinite negative => exact ⟨.null, hnull rfl rfl⟩
    | finite negative m =>
      have hspells : SpellsFloat negative (magnitudeText m) := spellsFloat_magnitudeText m
      obtain ⟨n, hspelled, hspelling, m', hvalue⟩ := hspells
      refine ⟨.number n, ?_, rfl, fun _ => ⟨_, .float negative m m', ?_⟩, fun h => by cases h⟩
      · rw [valueText, floatText, ← hspelling]
        exact hasTokens_spelling hspelled
      · simp only [readValue, hvalue, Option.elim_some, Number.toValue]
  | str s =>
    refine ⟨.text (s.toList.map pieceOf), hasTokens_quote s.toList, rfl, fun _ => ⟨_, .str s, ?_⟩,
      fun h => by cases h⟩
    rw [readValue, readText_map_pieceOf]
    rfl

/-- The member is what a name with a value is written as. -/
def IsMemberOf (pair : String × Value) (m : Member) : Prop :=
  m.pieces = pair.1.toList.map pieceOf ∧ IsTokenOf pair.2 m.token

/-- A member of a finite value gives the name with what the value is read as. -/
theorem IsMemberOf.read_ok {pair : String × Value} {m : Member} (h : IsMemberOf pair m)
    (finite : pair.2.isFinite = true) :
    ∃ w, pair.2.IsReadAs w ∧ m.read = .ok (pair.1, w) := by
  obtain ⟨w, hw, hread⟩ := h.2.readValue_ok finite
  refine ⟨w, hw, ?_⟩
  rw [Member.read, h.1, readText_map_pieceOf, hread]
  rfl

/-- A member of a number that is not finite gives no value. -/
theorem IsMemberOf.read_error {pair : String × Value} {m : Member} (h : IsMemberOf pair m)
    (infinite : pair.2.isFinite = false) : m.read = .error (.mismatch .notScalar) := by
  rw [Member.read, h.1, readText_map_pieceOf, h.2.readValue_error infinite]
  rfl

/-- A name with a value is read as the same name with what the value is read as. -/
def ReadsAs (pair found : String × Value) : Prop :=
  pair.1 = found.1 ∧ pair.2.IsReadAs found.2

/-- The text of an object with the given names and values. -/
def Layout.pairsText (l : Layout) (pairs : List (String × Value)) : List Char :=
  l.objectText (pairs.map fun pair => (pair.1, valueText pair.2))

/-- The document of written pairs has a member for each of them. -/
theorem exists_members_of_pairs (l : Layout) (pairs : List (String × Value)) :
    ∃ members, List.Forall₂ IsMemberOf pairs members ∧
      tokens (String.ofList (l.pairsText pairs)).toList =
        objectTokens (members.map Member.tokens) := by
  have hmember : ∀ pair ∈ pairs, ∃ m, IsMemberOf pair m := by
    intro pair _
    obtain ⟨token, htoken⟩ := exists_isTokenOf pair.2
    exact ⟨⟨pair.1.toList.map pieceOf, token⟩, rfl, htoken⟩
  obtain ⟨members, hmembers⟩ := exists_forall₂_of_forall_mem hmember
  have hentries : List.Forall₂ EntryHasTokens
      (pairs.map fun pair => (pair.1, valueText pair.2)) (members.map Member.tokens) := by
    rw [List.forall₂_map_left_iff, List.forall₂_map_right_iff]
    refine hmembers.imp ?_
    rintro pair m ⟨hpieces, htoken⟩
    exact ⟨[m.token], htoken.hasTokens, by rw [Member.tokens, hpieces]; rfl⟩
  refine ⟨members, hmembers, ?_⟩
  rw [String.toList_ofList]
  exact tokens_of_hasTokens (l.hasTokens_objectText hentries)

/-- Members of finite values give their names with what the values are read as. -/
theorem exists_pairs_of_members {pairs : List (String × Value)} {members : List Member}
    (h : List.Forall₂ IsMemberOf pairs members) (finite : ∀ pair ∈ pairs, pair.2.isFinite = true) :
    ∃ found, List.Forall₂ ReadsAs pairs found ∧
      List.Forall₂ (fun m pair => m.read = .ok pair) members found := by
  induction h with
  | nil => exact ⟨[], .nil, .nil⟩
  | @cons pair m pairs members hm _ ih =>
    obtain ⟨w, hw, hread⟩ := hm.read_ok (finite pair List.mem_cons_self)
    obtain ⟨found, hfound, hreads⟩ := ih fun p hp => finite p (List.mem_cons_of_mem pair hp)
    exact ⟨(pair.1, w) :: found, .cons ⟨rfl, hw⟩ hfound, .cons hread hreads⟩

/-- The first member of a number that is not finite is what is wrong with the members. -/
theorem mapM_read_eq_error {pairs : List (String × Value)} {members : List Member}
    (h : List.Forall₂ IsMemberOf pairs members)
    (infinite : ∃ pair ∈ pairs, pair.2.isFinite = false) :
    members.mapM Member.read = .error (.mismatch .notScalar) := by
  induction h with
  | nil => simp at infinite
  | @cons pair m pairs members hm _ ih =>
    rw [List.mapM_cons]
    cases hpair : pair.2.isFinite with
    | false => exact bind_eq_error (hm.read_error hpair)
    | true =>
      obtain ⟨w, _, hread⟩ := hm.read_ok hpair
      rw [hread, ih (by simpa [hpair] using infinite)]
      rfl

/-- **Written pairs without numbers that are not finite** are the members of their document. -/
theorem hasMembers_pairsText (l : Layout) {pairs : List (String × Value)}
    (finite : ∀ pair ∈ pairs, pair.2.isFinite = true) : ∃ found,
      List.Forall₂ ReadsAs pairs found ∧ HasMembers (String.ofList (l.pairsText pairs)) found := by
  obtain ⟨members, hmembers, htokens⟩ := exists_members_of_pairs l pairs
  obtain ⟨found, hfound, hreads⟩ := exists_pairs_of_members hmembers finite
  exact ⟨found, hfound, members, htokens, hreads⟩

/-- **Written pairs with a number that is not finite** are no document of a record. -/
theorem parseRecord_pairsText_eq_error (l : Layout) {pairs : List (String × Value)}
    (infinite : ∃ pair ∈ pairs, pair.2.isFinite = false) :
    parseRecord (String.ofList (l.pairsText pairs)) = .error (.mismatch .notScalar) := by
  obtain ⟨members, hmembers, htokens⟩ := exists_members_of_pairs l pairs
  have hatoms : ∀ m ∈ members, m.token.isAtom = true :=
    forall_mem_of_forall₂ (hmembers.flip.imp fun m pair h => h.2.isAtom)
  rw [parseRecord_eq htokens hatoms, mapM_read_eq_error hmembers infinite]
  rfl

end Json

end TypedNames
