import TypedNames.Proofs.Format.Grammar
import TypedNames.Proofs.Template.Construction

/-!
# Canonical specifiers

A format has a canonical specifier whatever its widths are, also those that no specifier can name.
Different formats have different ones, and a canonical specifier is read as its own format as soon
as all widths are in range; otherwise the fault is that of the first width out of range. A field can
therefore be made again from the canonical specifier of its format, and neither its pattern nor what
it writes and reads tells the two apart.

## Main definitions

* `widthFault?` — why a number is no width.
* `Format.widths` — the widths of a format, in the order of its specifier.

## Main results

* `Format.parse_specifier_eq` — how the canonical specifier of any format is read.
* `Format.specifier_injective` — different formats have different canonical specifiers.
* `Field.write_congr`, `Field.read_congr` — a field writes and reads by its name and format alone.
* `Format.specifier_canonical` — canonical specifiers and the fields made of them.
-/

set_option autoImplicit false

namespace TypedNames

/-! ## Widths out of range -/

/-- Why the number is no width, if it is none. -/
def widthFault? (n : Nat) : Option SpecFault :=
  if Integer.wordRange ≤ n then some .hugeWidth
  else if n = 0 then some .zeroWidth
  else if maxWidth < n then some .wideWidth
  else none

/-- A number is a width exactly if it lies from `1` to the largest width. -/
theorem widthFault?_eq_none_iff {n : Nat} : widthFault? n = none ↔ 1 ≤ n ∧ n ≤ maxWidth := by
  have hword : maxWidth < Integer.wordRange := by decide
  unfold widthFault?
  split
  · simp only [reduceCtorEq, false_iff]
    omega
  split
  · simp only [reduceCtorEq, false_iff]
    omega
  split
  · simp only [reduceCtorEq, false_iff]
    omega
  · simp only [true_iff]
    omega

/-- The digits of a number are read as the number, or with its fault as a width. -/
theorem readWidth_digits (n : Nat) :
    readWidth (Integer.digits n) = match widthFault? n with
      | some fault => .error fault
      | none => .ok n := by
  have hempty : (Integer.digits n).isEmpty = false := by simpa using Integer.digits_ne_nil n
  have hall : (Integer.digits n).all Char.isDigit = true :=
    List.all_eq_true.2 (Integer.isDigits_digits n)
  unfold readWidth widthFault?
  rw [hempty, hall, Integer.ofDigits_digits]
  simp only [Bool.not_true, Bool.or_false, Bool.false_eq_true, if_false]
  split
  · rfl
  split
  · rfl
  split <;> rfl

namespace Format

variable {format : Format}

/-- The widths of a format, in the order in which its specifier names them. -/
def widths : Format → List Nat
  | .fixed i d => [i, d]
  | .bool => []
  | .int width => width.toList
  | .str padding => (padding.map Prod.fst).toList

/-- A format is in range exactly if each of its widths is. -/
theorem inRange_iff : format.InRange ↔ ∀ n ∈ format.widths, 1 ≤ n ∧ n ≤ maxWidth := by
  cases format with
  | fixed i d => simp [InRange, widths]
  | bool => simp [InRange, widths]
  | int width => cases width <;> simp [InRange, widths]
  | str padding => rcases padding with _ | ⟨n, side⟩ <;> simp [InRange, widths]

/-- A format is in range exactly if none of its widths has a fault. -/
theorem findSome?_widths_eq_none_iff :
    format.widths.findSome? widthFault? = none ↔ format.InRange := by
  simp only [List.findSome?_eq_none_iff, widthFault?_eq_none_iff, inRange_iff]

/-! ## Reading canonical specifiers -/

/-- The keyword of the canonical specifier is that of the kind, whatever the widths are. -/
theorem keyword?_specifier (format : Format) :
    keyword? format.specifier.toList = some format.kind := by
  rw [toList_specifier]
  split
  · rw [List.append_assoc]
    exact keyword?_float_append _
  · rfl
  · rfl
  · exact keyword?_append (Integer.isDigits_digits _) .int
  · rfl
  · exact keyword?_append (Integer.isDigits_digits _) .str
  · exact keyword?_keyword_append (Integer.isDigits_digits _) .str

/-- A format with one width is read from the digits of the width, or the width has a fault. -/
theorem map_readWidth_digits (make : Nat → Format) {n : Nat} (h : (make n).widths = [n]) :
    (readWidth (Integer.digits n)).map make =
      match (make n).widths.findSome? widthFault? with
      | some fault => .error fault
      | none => .ok (make n) := by
  rw [readWidth_digits, h, List.findSome?_singleton]
  cases widthFault? n <;> rfl

/-- **How the canonical specifier of any format is read**: as the format, or with the fault of the
first width that has one. -/
theorem parse_specifier_eq (format : Format) :
    parse format.specifier = match format.widths.findSome? widthFault? with
      | some fault => .error fault
      | none => .ok format := by
  rw [parse, parseChars_eq, keyword?_specifier, toList_specifier]
  cases format with
  | fixed i d =>
    have hpoint : '.' ∉ Integer.digits i := (Integer.isDigits_digits i).notMem (by decide)
    refine (parseFixed_append hpoint _).trans ?_
    rw [readWidth_digits, readWidth_digits, widths, List.findSome?_cons, List.findSome?_singleton]
    cases widthFault? i with
    | some fault => rfl
    | none => cases widthFault? d <;> rfl
  | bool => rfl
  | int width =>
    cases width with
    | none => rfl
    | some n => exact (parseInt_append (Integer.digits_ne_nil n)).trans (map_readWidth_digits _ rfl)
  | str padding =>
    rcases padding with _ | ⟨n, _ | _⟩
    · rfl
    · exact (parseStr_append (Integer.isDigits_digits n) (Integer.digits_ne_nil n)).trans
        (map_readWidth_digits _ rfl)
    · exact (parseStr_keyword_append (Integer.digits_ne_nil n)).trans (map_readWidth_digits _ rfl)

/-- The canonical specifier of a format out of range is rejected for a width that is no width. -/
theorem exists_parse_specifier_eq_error (out : ¬ format.InRange) :
    ∃ n ∈ format.widths, ¬ (1 ≤ n ∧ n ≤ maxWidth) ∧ ∃ cause, widthFault? n = some cause ∧
      parse format.specifier = .error cause := by
  rw [← findSome?_widths_eq_none_iff] at out
  obtain ⟨cause, hcause⟩ := Option.ne_none_iff_exists'.1 out
  obtain ⟨n, mem, hn⟩ := List.exists_of_findSome?_eq_some hcause
  refine ⟨n, mem, fun h => ?_, cause, hn, ?_⟩
  · rw [widthFault?_eq_none_iff.2 h] at hn
    cases hn
  · rw [parse_specifier_eq, hcause]

/-! ## Different formats -/

/-- Digits in front of a keyword differ from a keyword in front of digits. -/
theorem digits_append_ne_keyword_append (n n' : Nat) (kind : Kind) :
    Integer.digits n ++ kind.keyword ≠ kind.keyword ++ Integer.digits n' := by
  obtain ⟨c, more, hc⟩ := List.exists_cons_of_ne_nil (Integer.digits_ne_nil n)
  have hdigit : c.isDigit = true := Integer.isDigits_digits n c (hc ▸ List.mem_cons_self)
  rw [hc]
  cases kind <;> exact fun h => ne_of_isDigit hdigit (by decide) (List.cons.inj h).1

/-- **Different formats have different canonical specifiers.**

**Proof sketch.** The keyword tells the kind. Within a kind, the digits stand on one side of the
keyword or are cut by the point, so they are the same, and digits determine their number. -/
theorem specifier_injective : Function.Injective specifier := by
  intro format other h
  have htext : format.specifier.toList = other.specifier.toList := congrArg String.toList h
  have hkind : format.kind = other.kind := by
    have hsome := (keyword?_specifier format).symm.trans (htext ▸ keyword?_specifier other)
    exact Option.some.inj hsome
  have hdigits : Function.Injective Integer.digits :=
    Function.LeftInverse.injective Integer.ofDigits_digits
  simp only [toList_specifier] at htext
  cases format with
  | fixed i d =>
    cases other with
    | fixed i' d' =>
      have hpoint : ∀ n, '.' ∉ Integer.digits n := fun n =>
        (Integer.isDigits_digits n).notMem (by decide)
      simp only [List.append_assoc] at htext
      obtain ⟨hi, -, hd⟩ := (List.append_cons_inj_of_notMem (hpoint i) (hpoint d)).1
        (List.append_cancel_left htext)
      rw [hdigits hi, hdigits hd]
    | _ => cases hkind
  | bool =>
    cases other with
    | bool => rfl
    | _ => cases hkind
  | int width =>
    cases other with
    | int width' =>
      rcases width with _ | n <;> rcases width' with _ | n'
      · rfl
      · exact absurd (List.self_eq_append_left.1 htext) (Integer.digits_ne_nil n')
      · exact absurd (List.self_eq_append_left.1 htext.symm) (Integer.digits_ne_nil n)
      · rw [hdigits (List.append_cancel_right htext)]
    | _ => cases hkind
  | str padding =>
    cases other with
    | str padding' =>
      rcases padding with _ | ⟨n, _ | _⟩ <;> rcases padding' with _ | ⟨n', _ | _⟩
      · rfl
      · exact absurd (List.self_eq_append_left.1 htext) (Integer.digits_ne_nil n')
      · exact absurd (List.self_eq_append_right.1 htext) (Integer.digits_ne_nil n')
      · exact absurd (List.self_eq_append_left.1 htext.symm) (Integer.digits_ne_nil n)
      · rw [hdigits (List.append_cancel_right htext)]
      · exact absurd htext (digits_append_ne_keyword_append n n' .str)
      · exact absurd (List.self_eq_append_right.1 htext.symm) (Integer.digits_ne_nil n)
      · exact absurd htext.symm (digits_append_ne_keyword_append n' n .str)
      · rw [hdigits (List.append_cancel_left htext)]
    | _ => cases hkind

end Format

/-! ## Fields made again -/

namespace Field

variable {f g : Field}

/-- What a field writes depends on its name and its format alone. -/
theorem write_congr (name : g.name = f.name) (format : g.format = f.format) :
    g.write = f.write := by
  funext v
  unfold write writeFixed
  rw [name, format]

/-- What a field reads depends on its name and its format alone. -/
theorem read_congr (name : g.name = f.name) (format : g.format = f.format) :
    g.read = f.read := by
  funext token
  unfold read
  rw [name, format]

/-- **The canonical specifier makes the field again**: one with the same pattern that writes and
reads the same. -/
theorem exists_make_specifier (f : Field) :
    ∃ g, make f.name f.format.specifier = .ok g ∧ g.pattern = f.pattern ∧
      g.write = f.write ∧ g.read = f.read :=
  ⟨_, make_of_parse f.name_ne (Format.parse_specifier f.inRange), rfl,
    write_congr rfl rfl, read_congr rfl rfl⟩

end Field

namespace Format

/-- **Canonical specifiers.** The canonical specifier of a format is read as the format if all its
widths are in range; otherwise it is rejected, with any name, for a width that is none. Different
formats never have the same canonical specifier. And a field that is made from any specifier of its
format is made again from the canonical one: it has the same pattern, writes the same tokens or
tells the same faults, and reads the same values. -/
theorem specifier_canonical :
    (∀ format : Format,
      (format.InRange → parse format.specifier = .ok format) ∧
      (¬ format.InRange → ∃ n ∈ format.widths, ¬ (1 ≤ n ∧ n ≤ maxWidth) ∧
        ∃ cause, widthFault? n = some cause ∧ parse format.specifier = .error cause ∧
          ∀ name ≠ "", Field.make name format.specifier =
            .error (.badSpecifier format.specifier cause))) ∧
    (∀ format other : Format, format ≠ other → format.specifier ≠ other.specifier) ∧
    ∀ name spec f, Field.make name spec = .ok f →
      ∃ g, Field.make name f.format.specifier = .ok g ∧ g.pattern = f.pattern ∧
        (∀ v, g.write v = f.write v) ∧ ∀ token, g.read token = f.read token := by
  refine ⟨fun format => ⟨parse_specifier, fun out => ?_⟩,
    fun format other ne h => ne (specifier_injective h), fun name spec f h => ?_⟩
  · obtain ⟨n, mem, bounds, cause, hn, hparse⟩ := exists_parse_specifier_eq_error out
    exact ⟨n, mem, bounds, cause, hn, hparse, fun name ne =>
      Field.make_of_parse_eq_error ne hparse⟩
  · obtain ⟨rfl, rfl⟩ := Prod.mk.inj (Field.make_eq_ok_iff.1 h)
    obtain ⟨g, hmake, hpattern, hwrite, hread⟩ := f.exists_make_specifier
    exact ⟨g, hmake, hpattern, congrFun hwrite, congrFun hread⟩

/-- A format with a width of zero has a specifier, which names no format. -/
example : (Format.int (some 0)).specifier = "0int" ∧ parse "0int" = .error .zeroWidth := by
  decide +kernel

end Format

end TypedNames
