import Mathlib.Data.List.Infix
import TypedNames.Proofs.Format.Widths
import TypedNames.Proofs.Integer.Digits

/-!
# The grammar of specifiers

A specifier is read by its keyword: the first of four words that occurs anywhere in the text decides
how the whole text is read. This module gives the grammar of specifiers and shows that they are read
exactly by it. No word in front of the right one occurs in a specifier, since all else in it are
digits and a point, so the keyword never leads astray; and each shape is read as it is written,
with its widths bounded and nothing left over.

## Main definitions

* `IsWidth` — a text is a width.
* `Format.Specifies` — the grammar: a text is a specifier of a format.
* `Format.keyword?` — the kind of the first keyword that occurs in a text.
* `Format.parseAs` — a text read as a specifier of a given kind.

## Main results

* `occursIn_iff` — a keyword occurs where it stands between two other texts.
* `Format.parseAs_eq_ok_iff` — each shape is read as the grammar says.
* `Format.keyword?_of_specifies` — the keyword of a specifier is that of its kind.
* `Format.parse_iff_specifies` — the texts that are read, and all others.
* `Field.exists_make` — there is a field for each format in range.
-/

set_option autoImplicit false

namespace TypedNames

/-! ## Widths -/

/-- **The text is a width**: digits, with or without zeros in front, of a number from `1` to the
largest width. -/
structure IsWidth (text : List Char) (n : Nat) : Prop where
  /-- There is a digit. -/
  ne_nil : text ≠ []
  /-- There are no other characters. -/
  digits : IsDigits text
  /-- The digits denote the width. -/
  value : Integer.ofDigits text = n
  pos : 1 ≤ n
  le : n ≤ maxWidth

/-- **A width is read as the number that it denotes**, and no other text is read. -/
theorem readWidth_eq_ok_iff {text : List Char} {n : Nat} :
    readWidth text = .ok n ↔ IsWidth text n := by
  unfold readWidth
  constructor
  · intro h
    split at h
    · simp at h
    next hdigits =>
    split at h
    · simp at h
    split at h
    · simp at h
    next hzero =>
    split at h
    · simp at h
    next hwide =>
    rw [Bool.or_eq_true, not_or, Bool.not_eq_true', Bool.not_eq_false, List.all_eq_true] at hdigits
    have hvalue : Integer.ofDigits text = n := Except.ok.inj h
    exact ⟨by simpa using hdigits.1, hdigits.2, hvalue, by omega, by omega⟩
  · intro h
    have hempty : text.isEmpty = false := by simpa using h.ne_nil
    have hall : text.all Char.isDigit = true := List.all_eq_true.2 h.digits
    have hword : ¬ Integer.wordRange ≤ n :=
      Nat.not_le.2 (Nat.lt_of_le_of_lt h.le (by decide))
    rw [hempty, hall, h.value, if_neg hword, if_neg (Nat.ne_of_gt h.pos),
      if_neg (Nat.not_lt.2 h.le)]
    rfl

/-- The digits of a width are a width. -/
theorem isWidth_digits {n : Nat} (pos : 1 ≤ n) (le : n ≤ maxWidth) :
    IsWidth (Integer.digits n) n :=
  ⟨Integer.digits_ne_nil n, Integer.isDigits_digits n, Integer.ofDigits_digits n, pos, le⟩

/-- A width that is read is put into a format exactly if the text is a width. -/
theorem map_readWidth_eq_ok_iff {text : List Char} {make : Nat → Format} {format : Format} :
    (readWidth text).map make = .ok format ↔ ∃ n, IsWidth text n ∧ make n = format := by
  simp only [← readWidth_eq_ok_iff]
  cases readWidth text <;> simp [Except.map]

/-! ## Keywords -/

/-- A word occurs in a text exactly if the text is the word between two others. -/
theorem occursIn_iff {word text : List Char} :
    occursIn word text = true ↔ word <:+: text := by
  induction text with
  | nil => simp [occursIn]
  | cons c rest ih =>
    rw [occursIn, Bool.or_eq_true, ih, List.isPrefixOf_iff_prefix, List.infix_cons_iff]

/-- A word does not occur in a text without one of its characters. -/
theorem occursIn_eq_false {word text : List Char} {c : Char} (mem : c ∈ word) (notMem : c ∉ text) :
    occursIn word text = false := by
  rw [← Bool.not_eq_true, occursIn_iff]
  exact fun h => notMem (h.subset mem)

/-- The word by which a specifier names the kind of a format. -/
def Kind.keyword : Kind → List Char
  | .float => ['f', 'p']
  | .bool => ['b', 'o', 'o', 'l']
  | .int => ['i', 'n', 't']
  | .str => ['s', 't', 'r']

namespace Format

/-- The kind of the first keyword that occurs in the text. The order is that of the list, whatever
their places in the text. -/
def keyword? (spec : List Char) : Option Kind :=
  [Kind.float, .bool, .int, .str].find? fun kind => occursIn kind.keyword spec

/-- The format that a text names as a specifier of the given kind. -/
def parseAs : Kind → List Char → Except SpecFault Format
  | .float => parseFixed
  | .bool => parseBool
  | .int => parseInt
  | .str => parseStr

/-- A specifier is read as one of the kind of its keyword. -/
theorem parseChars_eq (spec : List Char) :
    parseChars spec = match keyword? spec with
      | some kind => parseAs kind spec
      | none => .error .noKeyword := by
  unfold parseChars keyword?
  simp only [List.find?, Kind.keyword]
  cases occursIn ['f', 'p'] spec <;> cases occursIn ['b', 'o', 'o', 'l'] spec <;>
    cases occursIn ['i', 'n', 't'] spec <;> cases occursIn ['s', 't', 'r'] spec <;> rfl

/-! ## The grammar -/

/-- **The grammar of specifiers.** -/
inductive Specifies : List Char → Format → Prop
  /-- `fp`, the digits in front of the point, a point, and the digits behind it. -/
  | fixed {whole fraction : List Char} {i d : Nat} (least : IsWidth whole i)
    (places : IsWidth fraction d) :
    Specifies (Kind.float.keyword ++ whole ++ '.' :: fraction) (.fixed i d)
  /-- `bool`. -/
  | bool : Specifies Kind.bool.keyword .bool
  /-- `int`. -/
  | int : Specifies Kind.int.keyword (.int none)
  /-- A width and `int`. -/
  | sizedInt {digits : List Char} {n : Nat} (width : IsWidth digits n) :
    Specifies (digits ++ Kind.int.keyword) (.int (some n))
  /-- `str`. -/
  | str : Specifies Kind.str.keyword (.str none)
  /-- A width and `str`. -/
  | paddedFront {digits : List Char} {n : Nat} (width : IsWidth digits n) :
    Specifies (digits ++ Kind.str.keyword) (.str (some (n, .front)))
  /-- `str` and a width. -/
  | paddedBack {digits : List Char} {n : Nat} (width : IsWidth digits n) :
    Specifies (Kind.str.keyword ++ digits) (.str (some (n, .back)))

variable {spec : List Char} {format : Format}

/-- A fixed-point specifier is cut at its first point. -/
theorem parseFixed_append {whole : List Char} (notMem : '.' ∉ whole) (fraction : List Char) :
    parseFixed (Kind.float.keyword ++ whole ++ '.' :: fraction) = do
      let i ← readWidth whole
      let d ← readWidth fraction
      return .fixed i d := by
  have hplain : ∀ c ∈ whole, (c != '.') = true := fun c hc =>
    bne_iff_ne.2 fun e => notMem (e ▸ hc)
  have htake : (whole ++ '.' :: fraction).takeWhile (· != '.') = whole := by
    rw [List.takeWhile_append_of_pos hplain, List.takeWhile_cons_of_neg (by decide),
      List.append_nil]
  have hdrop : (whole ++ '.' :: fraction).dropWhile (· != '.') = '.' :: fraction := by
    rw [List.dropWhile_append_of_pos hplain, List.dropWhile_cons_of_neg (by decide)]
  simp only [Kind.keyword, List.cons_append, List.nil_append, parseFixed]
  rw [if_pos (by simp), htake, hdrop, List.tail_cons]

/-- The texts that are read as fixed-point specifiers.

**Proof sketch.** The text is cut at its first point, and a width has no point, so the widths are
what stands in front of it and behind it. -/
theorem parseFixed_eq_ok_iff :
    parseFixed spec = .ok format ↔ Specifies spec format ∧ format.kind = .float := by
  constructor
  · intro h
    have hrest : ∃ rest, spec = Kind.float.keyword ++ rest ∧ '.' ∈ rest := by
      unfold parseFixed at h
      split at h
      · next rest =>
        split at h
        · next hpoint => exact ⟨rest, rfl, hpoint⟩
        · simp at h
      · simp at h
    obtain ⟨rest, rfl, hpoint⟩ := hrest
    obtain ⟨whole, fraction, rfl, hnot⟩ := List.eq_append_cons_of_mem hpoint
    rw [← List.append_assoc, parseFixed_append hnot] at h
    cases hi : readWidth whole with
    | error fault => simp [hi, bind, Except.bind] at h
    | ok i =>
      cases hd : readWidth fraction with
      | error fault => simp [hi, hd, bind, Except.bind] at h
      | ok d =>
        have hformat : Format.fixed i d = format := by
          simpa [hi, hd, bind, Except.bind, pure, Except.pure] using h
        subst hformat
        rw [← List.append_assoc]
        exact ⟨.fixed (readWidth_eq_ok_iff.1 hi) (readWidth_eq_ok_iff.1 hd), rfl⟩
  · rintro ⟨h, hkind⟩
    cases h with
    | fixed least places =>
      rw [parseFixed_append (least.digits.notMem (by decide)), readWidth_eq_ok_iff.2 least,
        readWidth_eq_ok_iff.2 places]
      rfl
    | _ => cases hkind

/-- The text that is read as the specifier of truth values. -/
theorem parseBool_eq_ok_iff :
    parseBool spec = .ok format ↔ Specifies spec format ∧ format.kind = .bool := by
  unfold parseBool
  constructor
  · intro h
    split at h
    · next hspec =>
      obtain rfl := Except.ok.inj h
      exact ⟨hspec ▸ .bool, rfl⟩
    · simp at h
  · rintro ⟨h, hkind⟩
    cases h with
    | bool => exact if_pos rfl
    | _ => cases hkind

/-- What stands in front of the keyword of integers is read as a width. -/
theorem parseInt_append {digits : List Char} (ne : digits ≠ []) :
    parseInt (digits ++ Kind.int.keyword) =
      (readWidth digits).map fun n => .int (some n) := by
  have hne : digits ++ Kind.int.keyword ≠ ['i', 'n', 't'] := by
    simpa [Kind.keyword] using ne
  have hsuffix : ['i', 'n', 't'].isSuffixOf? (digits ++ Kind.int.keyword) = some digits :=
    List.isSuffixOf?_eq_some_iff_append_eq.2 rfl
  rw [parseInt, if_neg hne, hsuffix]

/-- The texts that are read as integer specifiers. -/
theorem parseInt_eq_ok_iff :
    parseInt spec = .ok format ↔ Specifies spec format ∧ format.kind = .int := by
  constructor
  · intro h
    unfold parseInt at h
    split at h
    · next hspec =>
      obtain rfl := Except.ok.inj h
      exact ⟨hspec ▸ .int, rfl⟩
    · split at h
      · next digits hdigits =>
        obtain ⟨n, hwidth, rfl⟩ := map_readWidth_eq_ok_iff.1 h
        obtain rfl := List.isSuffixOf?_eq_some_iff_append_eq.1 hdigits
        exact ⟨.sizedInt hwidth, rfl⟩
      · simp at h
  · rintro ⟨h, hkind⟩
    cases h with
    | int => exact if_pos rfl
    | @sizedInt digits n width =>
      rw [parseInt_append width.ne_nil]
      exact map_readWidth_eq_ok_iff.2 ⟨n, width, rfl⟩
    | _ => cases hkind

/-- Digits in front of the keyword of texts are read as a width for padding in front. The keyword is
looked for at the front first, where a digit stands. -/
theorem parseStr_append {digits : List Char} (isDigits : IsDigits digits) (ne : digits ≠ []) :
    parseStr (digits ++ Kind.str.keyword) =
      (readWidth digits).map fun n => .str (some (n, .front)) := by
  have hne : digits ++ Kind.str.keyword ≠ ['s', 't', 'r'] := by
    simpa [Kind.keyword] using ne
  have hfront : ['s', 't', 'r'].isPrefixOf? (digits ++ Kind.str.keyword) = none := by
    rw [← Option.not_isSome_iff_eq_none, Option.isSome_iff_exists]
    rintro ⟨rest, hrest⟩
    have hcut := List.isPrefixOf?_eq_some_iff_append_eq.1 hrest
    obtain ⟨c, more, rfl⟩ := List.exists_cons_of_ne_nil ne
    obtain ⟨rfl, -⟩ := List.cons.inj hcut
    exact absurd (isDigits 's' List.mem_cons_self) (by decide)
  have hsuffix : ['s', 't', 'r'].isSuffixOf? (digits ++ Kind.str.keyword) = some digits :=
    List.isSuffixOf?_eq_some_iff_append_eq.2 rfl
  rw [parseStr, if_neg hne, hfront, hsuffix]

/-- What stands behind the keyword of texts is read as a width for padding behind. -/
theorem parseStr_keyword_append {digits : List Char} (ne : digits ≠ []) :
    parseStr (Kind.str.keyword ++ digits) =
      (readWidth digits).map fun n => .str (some (n, .back)) := by
  have hne : Kind.str.keyword ++ digits ≠ ['s', 't', 'r'] := by
    simpa [Kind.keyword] using ne
  have hfront : ['s', 't', 'r'].isPrefixOf? (Kind.str.keyword ++ digits) = some digits :=
    List.isPrefixOf?_eq_some_iff_append_eq.2 rfl
  rw [parseStr, if_neg hne, hfront]

/-- The texts that are read as text specifiers. -/
theorem parseStr_eq_ok_iff :
    parseStr spec = .ok format ↔ Specifies spec format ∧ format.kind = .str := by
  constructor
  · intro h
    unfold parseStr at h
    split at h
    · next hspec =>
      obtain rfl := Except.ok.inj h
      exact ⟨hspec ▸ .str, rfl⟩
    · split at h
      · next digits hdigits =>
        obtain ⟨n, hwidth, rfl⟩ := map_readWidth_eq_ok_iff.1 h
        obtain rfl := List.isPrefixOf?_eq_some_iff_append_eq.1 hdigits
        exact ⟨.paddedBack hwidth, rfl⟩
      · split at h
        · next digits hdigits =>
          obtain ⟨n, hwidth, rfl⟩ := map_readWidth_eq_ok_iff.1 h
          obtain rfl := List.isSuffixOf?_eq_some_iff_append_eq.1 hdigits
          exact ⟨.paddedFront hwidth, rfl⟩
        · simp at h
  · rintro ⟨h, hkind⟩
    cases h with
    | str => exact if_pos rfl
    | @paddedFront digits n width =>
      rw [parseStr_append width.digits width.ne_nil]
      exact map_readWidth_eq_ok_iff.2 ⟨n, width, rfl⟩
    | @paddedBack digits n width =>
      rw [parseStr_keyword_append width.ne_nil]
      exact map_readWidth_eq_ok_iff.2 ⟨n, width, rfl⟩
    | _ => cases hkind

/-- **Each shape is read as the grammar says**: the texts that are read as specifiers of a kind are
the specifiers of its formats. -/
theorem parseAs_eq_ok_iff {kind : Kind} :
    parseAs kind spec = .ok format ↔ Specifies spec format ∧ format.kind = kind := by
  cases kind with
  | float => exact parseFixed_eq_ok_iff
  | bool => exact parseBool_eq_ok_iff
  | int => exact parseInt_eq_ok_iff
  | str => exact parseStr_eq_ok_iff

/-! ## The keyword of a specifier -/

/-- Each keyword has a letter that none of the others has: its first one. -/
theorem exists_letter {kind other : Kind} (ne : other ≠ kind) :
    ∃ c ∈ other.keyword, c.isDigit = false ∧ c ∉ kind.keyword := by
  cases kind <;> cases other <;>
    first | exact absurd rfl ne | exact ⟨_, List.mem_cons_self, by decide, by decide⟩

/-- In a text of digits and the letters of a keyword that occurs, no other keyword is found. -/
theorem keyword?_of_isInfix {kind : Kind} (occurs : kind.keyword <:+: spec)
    (plain : ∀ c ∈ spec, c.isDigit = true ∨ c ∈ kind.keyword) : keyword? spec = some kind := by
  have honly : (fun other : Kind => occursIn other.keyword spec) = fun other => other == kind := by
    funext other
    by_cases h : other = kind
    · rw [h, occursIn_iff.2 occurs, beq_self_eq_true]
    · obtain ⟨c, mem, letter, foreign⟩ := exists_letter h
      rw [beq_false_of_ne h]
      refine occursIn_eq_false mem fun hc => ?_
      rcases plain c hc with hdigit | hkeyword
      · exact ne_of_isDigit hdigit letter rfl
      · exact foreign hkeyword
  rw [keyword?, honly]
  cases kind <;> rfl

/-- The keyword of fixed-point numbers is the first in the order, so it does not matter what stands
behind it. -/
theorem keyword?_float_append (rest : List Char) :
    keyword? (Kind.float.keyword ++ rest) = some .float :=
  List.find?_cons_of_pos (occursIn_iff.2 (List.prefix_append _ _).isInfix)

/-- The keyword behind digits is found. -/
theorem keyword?_append {digits : List Char} (h : IsDigits digits) (kind : Kind) :
    keyword? (digits ++ kind.keyword) = some kind :=
  keyword?_of_isInfix (List.suffix_append _ _).isInfix fun c hc =>
    (List.mem_append.1 hc).imp_left (h c)

/-- The keyword in front of digits is found. -/
theorem keyword?_keyword_append {digits : List Char} (h : IsDigits digits) (kind : Kind) :
    keyword? (kind.keyword ++ digits) = some kind :=
  keyword?_of_isInfix (List.prefix_append _ _).isInfix fun c hc =>
    (List.mem_append.1 hc).symm.imp_left (h c)

/-- **The keyword of a specifier is that of its kind.** -/
theorem keyword?_of_specifies (h : Specifies spec format) : keyword? spec = some format.kind := by
  cases h with
  | fixed least places =>
    rw [List.append_assoc]
    exact keyword?_float_append _
  | bool => rfl
  | int => rfl
  | str => rfl
  | sizedInt width => exact keyword?_append width.digits .int
  | paddedFront width => exact keyword?_append width.digits .str
  | paddedBack width => exact keyword?_keyword_append width.digits .str

/-- **The texts that name a format** are the specifiers of the format. -/
theorem parseChars_eq_ok_iff : parseChars spec = .ok format ↔ Specifies spec format := by
  rw [parseChars_eq]
  constructor
  · intro h
    cases hkeyword : keyword? spec with
    | none => simp [hkeyword] at h
    | some kind =>
      rw [hkeyword] at h
      exact (parseAs_eq_ok_iff.1 h).1
  · intro h
    rw [keyword?_of_specifies h]
    exact parseAs_eq_ok_iff.2 ⟨h, rfl⟩

/-- A text that is no specifier of any format is not read. -/
theorem exists_parse_eq_error {spec : String} (none : ∀ format, ¬ Specifies spec.toList format) :
    ∃ cause, parse spec = .error cause := by
  cases h : parse spec with
  | ok format => exact absurd (parseChars_eq_ok_iff.1 h) (none format)
  | error cause => exact ⟨cause, rfl⟩

/-- **Specifiers are read by the grammar.** A text names a format exactly if it is a specifier of
the format. Any other text is a fault, with which a field of any name tells the text itself. The
first keyword that occurs in a text decides how it is read, and in a specifier this is the keyword
of its kind. -/
theorem parse_iff_specifies (spec : String) :
    (∀ format, parse spec = .ok format ↔ Specifies spec.toList format) ∧
    ((∀ format, ¬ Specifies spec.toList format) → ∃ cause, parse spec = .error cause ∧
      ∀ name ≠ "", Field.make name spec = .error (.badSpecifier spec cause)) ∧
    (parse spec = match keyword? spec.toList with
      | some kind => parseAs kind spec.toList
      | none => .error .noKeyword) ∧
    ∀ format, Specifies spec.toList format → keyword? spec.toList = some format.kind := by
  refine ⟨fun format => parseChars_eq_ok_iff, fun none => ?_, parseChars_eq spec.toList,
    fun format h => keyword?_of_specifies h⟩
  obtain ⟨cause, hcause⟩ := exists_parse_eq_error none
  exact ⟨cause, hcause, fun name ne => Field.make_of_parse_eq_error ne hcause⟩

/-- Zeros in front of a width are left out, and a text with two keywords is read by the first. -/
example : parse "fp01.003" = .ok (.fixed 1 3) ∧ parse "strbool" = .error .notBool := by
  decide +kernel

/-! ## Canonical specifiers -/

/-- The characters of canonical specifiers: keywords, and widths in digits without zeros in
front. -/
theorem toList_specifier (format : Format) :
    format.specifier.toList = match format with
      | .fixed i d => Kind.float.keyword ++ Integer.digits i ++ '.' :: Integer.digits d
      | .bool => Kind.bool.keyword
      | .int none => Kind.int.keyword
      | .int (some n) => Integer.digits n ++ Kind.int.keyword
      | .str none => Kind.str.keyword
      | .str (some (n, .front)) => Integer.digits n ++ Kind.str.keyword
      | .str (some (n, .back)) => Kind.str.keyword ++ Integer.digits n := by
  unfold specifier
  split <;> simp [Integer.digits, Kind.keyword]

/-- The canonical specifier of a format in range is one of its specifiers. -/
theorem specifies_specifier (range : format.InRange) :
    Specifies format.specifier.toList format := by
  rw [toList_specifier]
  split
  · exact .fixed (isWidth_digits range.1.1 range.1.2) (isWidth_digits range.2.1 range.2.2)
  · exact .bool
  · exact .int
  · exact .sizedInt (isWidth_digits range.1 range.2)
  · exact .str
  · exact .paddedFront (isWidth_digits range.1 range.2)
  · exact .paddedBack (isWidth_digits range.1 range.2)

/-- **The canonical specifier of a format in range names it.** -/
theorem parse_specifier (range : format.InRange) : parse format.specifier = .ok format :=
  parseChars_eq_ok_iff.2 (specifies_specifier range)

end Format

/-- **There is a field for each format in range**, with any name. -/
theorem Field.exists_make {format : Format} (range : format.InRange) {name : String}
    (ne : name ≠ "") :
    ∃ f, Field.make name format.specifier = .ok f ∧ f.format = format :=
  ⟨_, make_of_parse ne (Format.parse_specifier range), rfl⟩

end TypedNames
