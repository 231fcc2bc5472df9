import TypedNames.Cli.Run

/-!
# Reports of failures

A report says which stage failed and, below it, why: the lines of a cause are indented, and if one
cause lies behind another, both are numbered. Failures of different stages never have the same
report, and faults of different sorts never have the same message.

## Main definitions

* `Cli.errorText`, `Cli.nestedErrorText` — what is written for one cause and for two.

## Main results

* `Cli.Failure.report_of_one`, `Cli.Failure.report_of_two` — the report of a failure.
* `Cli.Failure.ctorIdx_eq_of_report_eq` — the report tells which stage failed.
* `Fault.ctorIdx_eq_of_message_eq` — the message tells the sort of a fault.
-/

set_option autoImplicit false

namespace TypedNames

/-- What starts a text starts it with another text behind it. -/
theorem isPrefix_append {opening : List Char} {s : String} (h : opening <+: s.toList) (t : String) :
    opening <+: (s ++ t).toList := by
  rw [String.toList_append]
  exact h.trans (List.prefix_append _ _)

/-- A text starts itself with another text behind it. -/
theorem toList_isPrefix (s t : String) : s.toList <+: (s ++ t).toList :=
  isPrefix_append List.prefix_rfl t

/-- In a list of texts of which none starts another, one text starts another only if both stand at
the same place. -/
theorem index_eq_of_isPrefix {openings : List String}
    (apart : ∀ i < openings.length, ∀ j < openings.length,
      (openings.getD i "").toList <+: (openings.getD j "").toList → i = j)
    {i j : Nat} (hi : i < openings.length) (hj : j < openings.length)
    (h : (openings.getD i "").toList <+: (openings.getD j "").toList ∨
      (openings.getD j "").toList <+: (openings.getD i "").toList) : i = j := by
  rcases h with h | h
  · exact apart i hi j hj h
  · exact (apart j hj i hi h).symm

/-! ## The form of a report -/

namespace Cli

/-- A text with as many spaces as given behind each of its line feeds. -/
def indented (count : Nat) (text : String) : String :=
  String.ofList (text.toList.flatMap fun c =>
    if c = '\n' then '\n' :: List.replicate count ' ' else [c])

/-- **What is written for a failure with one cause.** -/
def errorText (context cause : String) : String :=
  "Error: " ++ context ++ "\n\nCaused by:\n    " ++ indented 4 cause ++ "\n"

/-- **What is written for a failure with one cause behind another.** -/
def nestedErrorText (context outer inner : String) : String :=
  "Error: " ++ context ++ "\n\nCaused by:\n    0: " ++ indented 7 outer ++ "\n    1: " ++
    indented 7 inner ++ "\n"

namespace Failure

/-- A cause is indented behind its label. -/
theorem causeText_eq (label : List Char) (count : Nat) (cause : String) :
    causeText label (List.replicate count ' ') cause = label ++ (indented count cause).toList := by
  rw [causeText, Text.intercalate_splitAt, indented, String.toList_ofList]

variable {f g : Failure}

/-- **The report of a failure with one cause.** -/
theorem report_of_one {cause : String} (h : f.causes = [cause]) :
    f.report = errorText f.context cause := by
  rw [report, h, causesText, causeText_eq, errorText, ← String.toList_inj]
  simp

/-- **The report of a failure with one cause behind another.** -/
theorem report_of_two {outer inner : String} (h : f.causes = [outer, inner]) :
    f.report = nestedErrorText f.context outer inner := by
  have hzero : (Integer.digits 0).leftpad 5 ' ' ++ [':', ' '] = "    0: ".toList := by decide
  have hone : (Integer.digits 1).leftpad 5 ' ' ++ [':', ' '] = "    1: ".toList := by decide
  have htext : causesText [outer, inner] = ['\n'].intercalate
      [causeText ((Integer.digits 0).leftpad 5 ' ' ++ [':', ' ']) (List.replicate 7 ' ') outer,
        causeText ((Integer.digits 1).leftpad 5 ' ' ++ [':', ' ']) (List.replicate 7 ' ') inner] :=
    rfl
  rw [hzero, hone, List.intercalate_cons_cons, List.intercalate_singleton, causeText_eq,
    causeText_eq] at htext
  rw [report, h, htext, nestedErrorText, ← String.toList_inj]
  simp

/-- The outcome of a stage that failed with one cause. -/
theorem outcome_of_one {cause : String} (h : f.causes = [cause]) :
    Outcome.failure f = ⟨1, "", [], errorText f.context cause⟩ := by
  rw [Outcome.failure, report_of_one h]

/-- The outcome of a stage that failed with one cause behind another. -/
theorem outcome_of_two {outer inner : String} (h : f.causes = [outer, inner]) :
    Outcome.failure f = ⟨1, "", [], nestedErrorText f.context outer inner⟩ := by
  rw [Outcome.failure, report_of_two h]

/-! ### Which stage failed -/

/-- The words with which the context of each stage starts. -/
def openings : List String := [
  "Failed to read schema file: ", "Failed to parse schema", "Invalid schema",
  "Failed to read file: ", "Failed to read from stdin", "Values must be a JSON object of scalars",
  "Failed to encode values into a filename", "Failed to decode '"]

/-- A report starts with the words for its stage. -/
theorem opening_isPrefix (f : Failure) :
    "Error: ".toList ++ (openings.getD f.ctorIdx "").toList <+: f.report.toList := by
  have hcontext : (openings.getD f.ctorIdx "").toList <+: f.context.toList := by
    cases f with
    | schemaUnreadable path => exact toList_isPrefix "Failed to read schema file: " path
    | valuesUnreadable path => exact toList_isPrefix "Failed to read file: " path
    | notRead name =>
      exact (toList_isPrefix "Failed to decode '" name).trans (toList_isPrefix _ "'")
    | _ => exact List.prefix_rfl
  rw [report, String.append_assoc, String.append_assoc, String.toList_append]
  exact (List.prefix_append_right_inj _).2 (hcontext.trans (toList_isPrefix _ _))

/-- **The report tells which stage failed.** -/
theorem ctorIdx_eq_of_report_eq (h : f.report = g.report) : f.ctorIdx = g.ctorIdx := by
  have hlt (f : Failure) : f.ctorIdx < openings.length := by
    cases f <;> exact Nat.le_of_ble_eq_true rfl
  refine index_eq_of_isPrefix (by decide) (hlt f) (hlt g) ?_
  rcases List.prefix_or_prefix_of_prefix (h ▸ f.opening_isPrefix) g.opening_isPrefix with h | h
  · exact .inl ((List.prefix_append_right_inj _).1 h)
  · exact .inr ((List.prefix_append_right_inj _).1 h)

end Failure

end Cli

/-! ## The messages of faults -/

namespace Fault

/-- The words with which the message of each sort of fault starts. -/
def openings : List String := [
  "Invalid format '", "Invalid field name: ", "Duplicate field: ", "Missing fields: ",
  "Unknown fields: ", "Type mismatch for field '", "Cannot encode field '", "Filename '",
  "Cannot decode field '", "Pattern compile error: "]

/-- A message starts with the words for its sort. -/
theorem opening_isPrefix (fault : Fault) :
    (openings.getD fault.ctorIdx "").toList <+: fault.message.toList := by
  cases fault with
  | emptyName => decide
  | duplicateField name => exact toList_isPrefix "Duplicate field: " name
  | missingFields names => exact toList_isPrefix "Missing fields: " _
  | unknownFields names => exact toList_isPrefix "Unknown fields: " _
  | badPattern cause => exact toList_isPrefix "Pattern compile error: " _
  | badSpecifier =>
    iterate 2 refine isPrefix_append ?_ _
    exact toList_isPrefix "Invalid format '" _
  | kindMismatch =>
    iterate 4 refine isPrefix_append ?_ _
    exact toList_isPrefix "Type mismatch for field '" _
  | unwritable =>
    iterate 2 refine isPrefix_append ?_ _
    exact toList_isPrefix "Cannot encode field '" _
  | noMatch =>
    iterate 3 refine isPrefix_append ?_ _
    exact toList_isPrefix "Filename '" _
  | unreadable =>
    iterate 6 refine isPrefix_append ?_ _
    exact toList_isPrefix "Cannot decode field '" _

/-- **The message tells the sort of a fault.** -/
theorem ctorIdx_eq_of_message_eq {a b : Fault} (h : a.message = b.message) :
    a.ctorIdx = b.ctorIdx := by
  have hlt (fault : Fault) : fault.ctorIdx < openings.length := by
    cases fault <;> exact Nat.le_of_ble_eq_true rfl
  exact index_eq_of_isPrefix (by decide) (hlt a) (hlt b)
    (List.prefix_or_prefix_of_prefix (h ▸ a.opening_isPrefix) b.opening_isPrefix)

end Fault

end TypedNames
