import TypedNames.Main
import TypedNames.Proofs.Cli.Arguments
import TypedNames.Proofs.Cli.Reports
import TypedNames.Proofs.Template.Construction
import TypedNames.Proofs.Template.Validation

/-!
# Writing names on the command line

The task of writing a name takes two documents, a schema and the values, each from one of several
sources. What it answers depends on the two texts alone: it is the name, or the fault of the first
stage that fails, and then nothing is printed.

## Main definitions

* `Cli.Source.Holds` — a source holds a text.
* `Cli.SchemaFault`, `Cli.ValuesFault` — what is wrong with a schema and with values, in words.
* `Cli.Encodes` — the outcome for the two documents, stage by stage.
* `Cli.encodeArguments` — arguments with which the two sources are given.

## Main results

* `Cli.run_encode_eq_iff` — the outcome of writing a name.
* `Cli.parse?_encodeArguments` — any two sources can be given.
* `Cli.respond_encode` — writing a name, from the arguments on.
-/

set_option autoImplicit false

namespace TypedNames.Cli

variable {libraries : Libraries} {inputs : Inputs} {schema source : Source}
  {document values text : String} {outcome : Outcome}

/-! ## Sources -/

/-- **The source holds the text**: there is a file with this content, or the text is given as it is,
or it is the standard input. -/
inductive Source.Holds (inputs : Inputs) : Source → String → Prop
  /-- A file that exists and holds the text. -/
  | file {path text : String} (present : inputs.files path = .ok text) :
    Holds inputs (.file path) text
  /-- The text itself. -/
  | inline (text : String) : Holds inputs (.inline text) text
  /-- The standard input. -/
  | standardInput {text : String} (present : inputs.standardInput = .ok text) :
    Holds inputs .standardInput text

/-- A source that holds a text is read as this text, and nothing is refused. -/
theorem Source.Holds.text_eq (h : source.Holds inputs text)
    (refuse : String → FileFault → Failure) :
    source.text inputs refuse = .ok text := by
  cases h with
  | file present => rw [Source.text, present]; rfl
  | inline text => rfl
  | standardInput present => rw [Source.text, present]; rfl

/-! ## Words for faults -/

/-- **What is wrong with a schema, in words**, if it is not its pattern. -/
inductive SchemaFault : Fault → String → Prop
  /-- A field has the empty name. -/
  | emptyName : SchemaFault .emptyName "Invalid field name: field names must not be empty"
  /-- A text is no specifier. -/
  | badSpecifier (spec : String) (cause : SpecFault) :
    SchemaFault (.badSpecifier spec cause) ("Invalid format '" ++ spec ++ "': " ++ cause.message)
  /-- Two fields have one name. -/
  | duplicateField (name : String) :
    SchemaFault (.duplicateField name) ("Duplicate field: " ++ name)

/-- **What is wrong with values, in words.** -/
inductive ValuesFault : Fault → String → Prop
  /-- Fields have no value. -/
  | missingFields (names : List String) :
    ValuesFault (.missingFields names) ("Missing fields: " ++ ", ".intercalate names)
  /-- There are values for no field. -/
  | unknownFields (names : List String) :
    ValuesFault (.unknownFields names) ("Unknown fields: " ++ ", ".intercalate names)
  /-- A value is of another kind than its field. -/
  | kindMismatch (field : String) (expected found : Kind) :
    ValuesFault (.kindMismatch field expected found)
      ("Type mismatch for field '" ++ field ++ "': expected " ++ expected.name ++ ", found " ++
        found.name)
  /-- A value cannot be written in its field. -/
  | unwritable (field : String) (cause : WriteFault) :
    ValuesFault (.unwritable field cause)
      ("Cannot encode field '" ++ field ++ "': " ++ cause.message)

variable {fault : Fault} {words : String}

/-- The words for a fault of a schema are all that is reported of it. -/
theorem SchemaFault.causes_eq (h : SchemaFault fault words) : fault.causes = [words] := by
  cases h <;> rfl

/-- The words for a fault of values are all that is reported of it. -/
theorem ValuesFault.causes_eq (h : ValuesFault fault words) : fault.causes = [words] := by
  cases h <;> rfl

/-- If a schema describes no template, either the engine does not compile its pattern or there are
words for the fault. -/
theorem exists_schemaFault {s : Schema} {engine : Engine} (fails : s.build engine = .error fault) :
    (∃ cause, fault = .badPattern cause) ∨ ∃ words, SchemaFault fault words := by
  cases Template.ofSpecs_eq_iff_builds.1 fails with
  | rejected _ _ rejects =>
    cases rejects with
    | emptyName => exact .inr ⟨_, .emptyName⟩
    | badSpecifier => exact .inr ⟨_, .badSpecifier _ _⟩
  | repeated => exact .inr ⟨_, .duplicateField _⟩
  | refused => exact .inl ⟨_, rfl⟩

/-- If values have no name, there are words for the fault. -/
theorem exists_valuesFault {t : Template} {r : Record} (fails : t.write r = .error fault) :
    ∃ words, ValuesFault fault words := by
  rw [Template.write_eq_writeOr, Template.writeOr_eq_iff] at fails
  cases fails with
  | missing => exact ⟨_, .missingFields _⟩
  | unknown => exact ⟨_, .unknownFields _⟩
  | refused _ _ _ _ _ refuses =>
    cases Field.write_eq_error_iff.1 refuses with
    | kindMismatch => exact ⟨_, .kindMismatch _ _ _⟩
    | inexact => exact ⟨_, .unwritable _ _⟩
    | notFinite => exact ⟨_, .unwritable _ _⟩

/-! ## Stages -/

/-- **The outcome of writing the values of one document under the schema of another.** Each rule
names the first stage that fails, and says nothing about the stages behind it. -/
inductive Encodes (libraries : Libraries) (document values : String) : Outcome → Prop
  /-- The schema is no schema document. -/
  | schemaMalformed {problem : Json.Problem} (fails : Schema.parse document = .error problem) :
    Encodes libraries document values ⟨1, "", [], nestedErrorText "Failed to parse schema"
      ("Schema parse error: " ++ libraries.schemaTelling.message document problem)
      (libraries.schemaTelling.message document problem)⟩
  /-- The engine does not compile the pattern of the schema. -/
  | schemaRefused {s : Schema} {cause : Engine.Refusal} (parsed : Schema.parse document = .ok s)
    (fails : s.build libraries.engine = .error (.badPattern cause)) :
    Encodes libraries document values ⟨1, "", [], nestedErrorText "Invalid schema"
      ("Pattern compile error: " ++ cause.message) cause.message⟩
  /-- The schema describes no template for another reason. -/
  | schemaInvalid {s : Schema} {fault : Fault} {words : String}
    (parsed : Schema.parse document = .ok s) (fails : s.build libraries.engine = .error fault)
    (told : SchemaFault fault words) :
    Encodes libraries document values ⟨1, "", [], errorText "Invalid schema" words⟩
  /-- The values are no record document. -/
  | valuesMalformed {s : Schema} {t : Template} {problem : Json.Problem}
    (parsed : Schema.parse document = .ok s) (built : s.build libraries.engine = .ok t)
    (fails : Json.parseRecord values = .error problem) :
    Encodes libraries document values
      ⟨1, "", [.built t.fields.length t.pattern, .loaded t.fields.length],
        errorText "Values must be a JSON object of scalars"
          (libraries.recordTelling.message values problem)⟩
  /-- The values have no name under the template. -/
  | notWritten {s : Schema} {t : Template} {r : Record} {fault : Fault} {words : String}
    (parsed : Schema.parse document = .ok s) (built : s.build libraries.engine = .ok t)
    (read : Json.parseRecord values = .ok r) (fails : t.write r = .error fault)
    (told : ValuesFault fault words) :
    Encodes libraries document values
      ⟨1, "", [.built t.fields.length t.pattern, .loaded t.fields.length],
        errorText "Failed to encode values into a filename" words⟩
  /-- All stages succeed. -/
  | written {s : Schema} {t : Template} {r : Record} {name : String}
    (parsed : Schema.parse document = .ok s) (built : s.build libraries.engine = .ok t)
    (read : Json.parseRecord values = .ok r) (writes : t.write r = .ok name) :
    Encodes libraries document values
      ⟨0, name ++ "\n",
        [.built t.fields.length t.pattern, .loaded t.fields.length, .written name], ""⟩

/-- Two documents always have an outcome. -/
theorem exists_encodes (libraries : Libraries) (document values : String) :
    ∃ outcome, Encodes libraries document values outcome := by
  cases parsed : Schema.parse document with
  | error problem => exact ⟨_, .schemaMalformed parsed⟩
  | ok s =>
    cases built : s.build libraries.engine with
    | error fault =>
      rcases exists_schemaFault built with ⟨cause, rfl⟩ | ⟨words, told⟩
      · exact ⟨_, .schemaRefused parsed built⟩
      · exact ⟨_, .schemaInvalid parsed built told⟩
    | ok t =>
      cases read : Json.parseRecord values with
      | error problem => exact ⟨_, .valuesMalformed parsed built read⟩
      | ok r =>
        cases writes : t.write r with
        | error fault =>
          obtain ⟨words, told⟩ := exists_valuesFault writes
          exact ⟨_, .notWritten parsed built read writes told⟩
        | ok name => exact ⟨_, .written parsed built read writes⟩

/-- The exit code is zero exactly when all stages succeed. -/
theorem Encodes.code_eq_zero_iff (h : Encodes libraries document values outcome) :
    outcome.code = 0 ↔ ∃ s t r name, Schema.parse document = .ok s ∧
      s.build libraries.engine = .ok t ∧ Json.parseRecord values = .ok r ∧
        t.write r = .ok name := by
  cases h with
  | schemaMalformed fails => simp [fails]
  | schemaRefused parsed fails => simp [parsed, fails]
  | schemaInvalid parsed fails told => simp [parsed, fails]
  | valuesMalformed parsed built fails => simp [fails]
  | notWritten parsed built read fails told => simp [parsed, built, read, fails]
  | written parsed built read writes => simp [parsed, built, read, writes]

/-- Where a stage fails, the exit code is one and nothing is printed. -/
theorem Encodes.code_eq_one (h : Encodes libraries document values outcome)
    (fails : outcome.code ≠ 0) : outcome.code = 1 ∧ outcome.out = "" := by
  cases h with
  | written => exact absurd rfl fails
  | _ => exact ⟨rfl, rfl⟩

/-- The template of a source that holds the schema. -/
theorem template_eq (h : schema.Holds inputs document) :
    schema.template libraries inputs =
      ((Schema.parse document).mapError fun problem =>
        Failure.schemaMalformed (libraries.schemaTelling.message document problem)) >>= fun s =>
          (s.build libraries.engine).mapError Failure.schemaInvalid := by
  rw [Source.template, h.text_eq]
  rfl

/-- The name of the values that a source holds. -/
theorem name_eq (h : source.Holds inputs values) (t : Template) :
    source.name libraries inputs t =
      ((Json.parseRecord values).mapError fun problem =>
        Failure.valuesMalformed (libraries.recordTelling.message values problem)) >>= fun r =>
          (t.write r).mapError Failure.notWritten := by
  rw [Source.name, Source.record, h.text_eq]
  rfl

/-- The template of a source that holds a schema document. -/
theorem template_of_parsed (h : schema.Holds inputs document) {s : Schema}
    (parsed : Schema.parse document = .ok s) :
    schema.template libraries inputs = (s.build libraries.engine).mapError .schemaInvalid := by
  rw [template_eq h, parsed]
  rfl

/-- The name of the values of a source that holds a record document. -/
theorem name_of_read (h : source.Holds inputs values) {r : Record}
    (read : Json.parseRecord values = .ok r) (t : Template) :
    source.name libraries inputs t = (t.write r).mapError .notWritten := by
  rw [name_eq h, read]
  rfl

/-- The task fails with the fault of a schema that describes no template. -/
theorem run_encode_of_build_eq_error (h : schema.Holds inputs document) {s : Schema}
    (parsed : Schema.parse document = .ok s) (fails : s.build libraries.engine = .error fault) :
    (Command.encode schema source).run libraries inputs = .failure (.schemaInvalid fault) := by
  have htemplate : schema.template libraries inputs = .error (.schemaInvalid fault) := by
    rw [template_of_parsed h parsed, fails]
    rfl
  exact Command.run_of_error htemplate

/-- With a template the task goes on with the values. -/
theorem run_encode_of_build (h : schema.Holds inputs document) {s : Schema} {t : Template}
    (parsed : Schema.parse document = .ok s) (built : s.build libraries.engine = .ok t) :
    (Command.encode schema source).run libraries inputs =
      ((Command.encode schema source).runWith libraries inputs t).behind "" (loadEvents t) := by
  have htemplate : schema.template libraries inputs = .ok t := by
    rw [template_of_parsed h parsed, built]
    rfl
  exact Command.run_of_ok htemplate

/-- Values without a name are a failure with one cause, reported behind what is logged of the
template. -/
theorem runWith_encode_of_error {t : Template} {f : Failure}
    (fails : source.name libraries inputs t = .error f) (cause : f.causes = [words]) :
    ((Command.encode schema source).runWith libraries inputs t).behind "" (loadEvents t) =
      ⟨1, "", loadEvents t, errorText f.context words⟩ := by
  rw [Command.runWith, fails]
  dsimp only
  rw [Failure.outcome_of_one cause, Outcome.behind, List.append_nil, String.append_empty]

/-- The task has the outcome for its documents. -/
theorem run_encode_of_encodes (hschema : schema.Holds inputs document)
    (hvalues : source.Holds inputs values) (h : Encodes libraries document values outcome) :
    (Command.encode schema source).run libraries inputs = outcome := by
  cases h with
  | @schemaMalformed problem fails =>
    have htemplate : schema.template libraries inputs = .error
        (.schemaMalformed (libraries.schemaTelling.message document problem)) := by
      rw [template_eq hschema, fails]
      rfl
    rw [Command.run_of_error htemplate]
    exact Failure.outcome_of_two rfl
  | schemaRefused parsed fails =>
    rw [run_encode_of_build_eq_error hschema parsed fails]
    exact Failure.outcome_of_two rfl
  | schemaInvalid parsed fails told =>
    rw [run_encode_of_build_eq_error hschema parsed fails]
    exact Failure.outcome_of_one told.causes_eq
  | @valuesMalformed s t problem parsed built fails =>
    have hname : source.name libraries inputs t = .error
        (.valuesMalformed (libraries.recordTelling.message values problem)) := by
      rw [name_eq hvalues, fails]
      rfl
    rw [run_encode_of_build hschema parsed built, runWith_encode_of_error hname rfl]
    rfl
  | @notWritten s t r fault words parsed built read fails told =>
    have hname : source.name libraries inputs t = .error (.notWritten fault) := by
      rw [name_of_read hvalues read, fails]
      rfl
    rw [run_encode_of_build hschema parsed built, runWith_encode_of_error hname told.causes_eq]
    rfl
  | @written s t r name parsed built read writes =>
    have hname : source.name libraries inputs t = .ok name := by
      rw [name_of_read hvalues read, writes]
      rfl
    rw [run_encode_of_build hschema parsed built, Command.runWith, hname]
    simp [Outcome.behind, Outcome.success, loadEvents]

/-- **The outcome of writing a name** is the one for the two documents, and no other. -/
theorem run_encode_eq_iff (hschema : schema.Holds inputs document)
    (hvalues : source.Holds inputs values) :
    (Command.encode schema source).run libraries inputs = outcome ↔
      Encodes libraries document values outcome := by
  constructor
  · rintro rfl
    obtain ⟨found, hfound⟩ := exists_encodes libraries document values
    rwa [run_encode_of_encodes hschema hvalues hfound]
  · exact run_encode_of_encodes hschema hvalues

/-- Two documents have no other outcome than the one they have. -/
theorem Encodes.unique {other : Outcome} (h : Encodes libraries document values outcome)
    (h' : Encodes libraries document values other) : other = outcome := by
  let inputs : Inputs := ⟨fun _ => .error .missing, .ok "", fun _ => false⟩
  have hrun {found : Outcome} (hfound : Encodes libraries document values found) :
      (Command.encode (.inline document) (.inline values)).run libraries inputs = found :=
    (run_encode_eq_iff (.inline _) (.inline _)).2 hfound
  exact (hrun h').symm.trans (hrun h)

/-! ## Arguments -/

/-- The long name of an option. -/
def Choice.longName : Choice → String
  | .schemaFile => "schema"
  | .schemaText => "schema-json"
  | .valuesFile => "input"
  | .valuesText => "values"

/-- The argument that gives an option with its value attached. -/
def Choice.attached (choice : Choice) (value : String) : String :=
  "--" ++ choice.longName ++ "=" ++ value

/-- The characters of an argument with its value attached. -/
theorem Choice.toList_attached (choice : Choice) (value : String) :
    (choice.attached value).toList =
      '-' :: '-' :: (choice.longName.toList ++ '=' :: value.toList) := by
  simp [attached]

/-- The option that names the source of the schema. -/
def Source.schemaChoices : Source → List (Choice × String)
  | .file path => [(.schemaFile, path)]
  | .inline text => [(.schemaText, text)]
  | .standardInput => []

/-- The option that names the source of the values. Without one they come from the standard
input. -/
def Source.valuesChoices : Source → List (Choice × String)
  | .file path => [(.valuesFile, path)]
  | .inline text => [(.valuesText, text)]
  | .standardInput => []

/-- Arguments with which the two sources are given. -/
def encodeArguments (schema values : Source) : List String :=
  "encode" :: (schema.schemaChoices ++ values.valuesChoices).map fun given =>
    given.1.attached given.2

namespace Verb

/-- The part of an argument behind two dashes, where a value is attached to the long name. -/
theorem readLong_attached {verb : Verb} {name : List Char} {choice : Choice}
    (known : verb.longChoice? name = some choice) (plain : ∀ c ∈ name, (c != '=') = true)
    (value : List Char) :
    verb.readLong (name ++ '=' :: value) = .given choice (String.ofList value) := by
  have htake : (name ++ '=' :: value).takeWhile (· != '=') = name := by
    rw [List.takeWhile_append_of_pos plain, List.takeWhile_cons_of_neg (by decide),
      List.append_nil]
  have hdrop : (name ++ '=' :: value).dropWhile (· != '=') = '=' :: value := by
    rw [List.dropWhile_append_of_pos plain, List.dropWhile_cons_of_neg (by decide)]
  simp only [readLong, htake, hdrop, known]

/-- An option with its value attached is read as this option with this value. -/
theorem readArgument_attached (choice : Choice) (value : String) :
    Verb.encode.readArgument (choice.attached value).toList = .given choice value := by
  have hlong : Verb.encode.readLong (choice.longName.toList ++ '=' :: value.toList) =
      .given choice value := by
    rw [readLong_attached, String.ofList_toList]
    · cases choice <;> rfl
    · exact List.all_eq_true.1 (by cases choice <;> decide)
  rw [Choice.toList_attached, ← hlong]
  cases choice <;> rfl

/-- An option with its value attached is no flag. -/
theorem flagCount_attached (choice : Choice) (value : String) :
    flagCount (choice.attached value).toList = 0 := by
  have hne : choice.longName.toList ++ '=' :: value.toList ≠ "verbose".toList := by
    intro h
    have hmem : '=' ∈ "verbose".toList := h ▸ List.mem_append_right _ List.mem_cons_self
    exact absurd hmem (by decide)
  rw [Choice.toList_attached, flagCount, if_neg hne]

/-- Options with their values attached are read as they are. -/
theorem readArguments?_attached (choices : List (Choice × String)) :
    Verb.encode.readArguments? (choices.map fun given => given.1.attached given.2) =
      some ⟨choices, [], 0⟩ := by
  induction choices with
  | nil => rfl
  | cons given rest ih =>
    rw [List.map_cons, readArguments?, readArgument_attached]
    dsimp only
    rw [ih, flagCount_attached]
    rfl

end Verb

/-- **Any two sources can be given**, but the schema cannot come from the standard input. -/
theorem parse?_encodeArguments (ne : schema ≠ .standardInput) (values : Source) :
    Invocation.parse? (encodeArguments schema values) = some (.run 0 (.encode schema values)) := by
  rw [encodeArguments, Invocation.parse?]
  refine run_eq_some_iff.2 ⟨_, Verb.readArguments?_attached _, ?_, rfl⟩
  cases schema with
  | standardInput => exact absurd rfl ne
  | file path => cases values <;> rfl
  | inline text => cases values <;> rfl

/-- **Writing a name.** The two documents, a schema and the values, have one outcome, wherever they
come from: the schema from a file or from an option, the values from a file, from an option or from
the standard input. The exit code is zero exactly when the schema is read, describes a template, the
values are read, and they have a name under the template; this name and a line feed are then
printed. Otherwise the exit code is one, nothing is printed, and the report is that of the first of
these four stages that fails. Of the log that part is shown which flags or environment ask for, so
nothing of it if none of them does.

**Proof sketch.** A source that holds a text is read as that text before anything can fail, so the
run of the task is the four stages one after another. The outcome of the stages is unique as it is
that of the two texts given as they are. -/
theorem respond_encode (libraries : Libraries) (document values : String) :
    ∃ outcome, (∀ other, Encodes libraries document values other ↔ other = outcome) ∧
      (outcome.code = 0 ↔ ∃ s t r name, Schema.parse document = .ok s ∧
        s.build libraries.engine = .ok t ∧ Json.parseRecord values = .ok r ∧
          t.write r = .ok name) ∧
      (outcome.code ≠ 0 → outcome.code = 1 ∧ outcome.out = "") ∧
      ∀ (inputs : Inputs) (schema source : Source), schema.Holds inputs document →
        source.Holds inputs values →
        (∀ arguments verbosity,
          Invocation.parse? arguments = some (.run verbosity (.encode schema source)) →
            respond libraries inputs arguments =
              outcome.shown (Event.isShown inputs.asks verbosity)) ∧
        (schema ≠ .standardInput →
          respond libraries inputs (encodeArguments schema source) =
            outcome.shown (Event.isShown inputs.asks 0) ∧
          ((∀ event, inputs.asks event = false) →
            respond libraries inputs (encodeArguments schema source) =
              { outcome with log := [] })) := by
  obtain ⟨outcome, h⟩ := exists_encodes libraries document values
  refine ⟨outcome, fun other => ⟨h.unique, ?_⟩, h.code_eq_zero_iff, h.code_eq_one, ?_⟩
  · rintro rfl
    exact h
  · intro inputs schema source hschema hvalues
    have hrun : (Command.encode schema source).run libraries inputs = outcome :=
      (run_encode_eq_iff hschema hvalues).2 h
    refine ⟨fun arguments verbosity parsed => ?_, fun ne => ?_⟩
    · rw [respond_eq_shown parsed, hrun]
    · rw [respond_eq_shown (parse?_encodeArguments ne source), hrun]
      exact ⟨rfl, fun quiet => congrArg (Outcome.mk _ _ · _) (Outcome.log_shown_eq_nil quiet _)⟩

/-- A schema with a repeated name and values that are no record have the same outcome from files and
the standard input as from options, and it is the fault of the schema. -/
theorem respond_encode_repeated :
    let document := "\x7b\"fields\":\x7b\"n\":\"int\",\"n\":\"bool\"\x7d\x7d"
    let files : Inputs := ⟨fun _ => .ok document, .ok "[1]", fun _ => false⟩
    let nothing : Inputs := ⟨fun _ => .error .missing, .error .notText, fun _ => true⟩
    let outcome : Outcome :=
      ⟨1, "", [], "Error: Invalid schema\n\nCaused by:\n    Duplicate field: n\n"⟩
    respond ownLibraries files ["encode", "--schema=-s.json"] = outcome ∧
      respond ownLibraries nothing
        ["encode", "--schema-json=" ++ document, "--values=[1]"] = outcome := by
  intro document files nothing outcome
  obtain ⟨found, hiff, -, -, hall⟩ := respond_encode ownLibraries document "[1]"
  have hparse : Schema.parse document = .ok ⟨"", "", [("n", "int"), ("n", "bool")]⟩ := by
    decide +kernel
  have hbuild : Schema.build ownLibraries.engine ⟨"", "", [("n", "int"), ("n", "bool")]⟩ =
      .error (.duplicateField "n") := by
    rfl
  have hfound : outcome = found := (hiff _).1 (.schemaInvalid hparse hbuild (.duplicateField "n"))
  rw [← hfound] at hall
  have hfiles := hall files (.file "-s.json") .standardInput (.file rfl) (.standardInput rfl)
  have hnothing := hall nothing (.inline document) (.inline "[1]") (.inline _) (.inline _)
  exact ⟨(hfiles.2 (by simp)).1, (hnothing.2 (by simp)).1⟩

end TypedNames.Cli
