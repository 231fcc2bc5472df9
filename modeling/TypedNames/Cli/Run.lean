import TypedNames.Cli.Invocation
import TypedNames.Cli.Log
import TypedNames.Schema.Document
import TypedNames.Template.Name
import TypedNames.Text.Blank

/-!
# The program

What the program answers to its arguments, its standard input and the files it can read. A task
goes through its stages in order: read the schema, parse it, build the template, then read the
values or the names. The first stage that fails ends it, and what lies behind the failure is
reported below it.

Three parts of the program come from elsewhere and are left open: the engine that compiles patterns,
what the reader of JSON says about a document that it refuses, and what is answered to arguments
that ask for no task.

## Main definitions

* `Cli.Outcome` — exit code, output and log.
* `Cli.Failure` — the stage that failed, and why.
* `Cli.Failure.report` — how a failure is reported.
* `Cli.Libraries`, `Cli.Inputs` — what the program rests on, and what it can read.
* `Cli.Command.run` — the outcome of a task.
* `Cli.respond` — the outcome for arguments.
-/

set_option autoImplicit false

namespace TypedNames.Cli

/-! ## Outcomes -/

/-- What the program answers. The lines of the log and then `err` are written to the standard error
output. -/
structure Outcome where
  /-- The exit code: 0 for success, 1 for a failure. -/
  code : Nat
  /-- What is written to the standard output. -/
  out : String
  /-- What is logged. -/
  log : List Event
  /-- What is written behind the log. -/
  err : String
  deriving DecidableEq, Repr

namespace Outcome

/-- Success, without a log. -/
def success (out : String) : Outcome :=
  ⟨0, out, [], ""⟩

/-- The outcome behind what was written and logged before. -/
def behind (out : String) (log : List Event) (o : Outcome) : Outcome :=
  { o with out := out ++ o.out, log := log ++ o.log }

/-- The outcome with the part of the log that is shown. -/
def shown (o : Outcome) (isShown : Event → Bool) : Outcome :=
  { o with log := o.log.filter isShown }

end Outcome

/-! ## Failures -/

/-- Why there is no text to read. -/
inductive FileFault
  /-- Nothing is there. -/
  | missing
  /-- It must not be read. -/
  | denied
  /-- The path goes on behind a file. -/
  | notFolder
  /-- The path ends at a folder. -/
  | isFolder
  /-- The path or a name in it is too long. -/
  | tooLong
  /-- The content is no text. -/
  | notText
  deriving DecidableEq, Repr

/-- How the fault is told. -/
def FileFault.message : FileFault → String
  | .missing => "No such file or directory (os error 2)"
  | .denied => "Permission denied (os error 13)"
  | .notFolder => "Not a directory (os error 20)"
  | .isFolder => "Is a directory (os error 21)"
  | .tooLong => "File name too long (os error 36)"
  | .notText => "stream did not contain valid UTF-8"

/-- The stage of a task that failed. -/
inductive Failure
  /-- The file of the schema cannot be read. -/
  | schemaUnreadable (path : String) (cause : FileFault)
  /-- The schema is not a schema document, for the reason that is told. -/
  | schemaMalformed (problem : String)
  /-- The schema describes no template. -/
  | schemaInvalid (fault : Fault)
  /-- The file of the values cannot be read. -/
  | valuesUnreadable (path : String) (cause : FileFault)
  /-- The standard input cannot be read. -/
  | inputUnreadable (cause : FileFault)
  /-- The values are not a record document, for the reason that is told. -/
  | valuesMalformed (problem : String)
  /-- The values have no name. -/
  | notWritten (fault : Fault)
  /-- A name stands for no record. -/
  | notRead (name : String) (fault : Fault)
  deriving DecidableEq

namespace Failure

/-- The stage that failed, in words. -/
def context : Failure → String
  | .schemaUnreadable path _ => "Failed to read schema file: " ++ path
  | .schemaMalformed _ => "Failed to parse schema"
  | .schemaInvalid _ => "Invalid schema"
  | .valuesUnreadable path _ => "Failed to read file: " ++ path
  | .inputUnreadable _ => "Failed to read from stdin"
  | .valuesMalformed _ => "Values must be a JSON object of scalars"
  | .notWritten _ => "Failed to encode values into a filename"
  | .notRead name _ => "Failed to decode '" ++ name ++ "'"

/-- Why the stage failed, outermost cause first. -/
def causes : Failure → List String
  | .schemaUnreadable _ cause | .valuesUnreadable _ cause | .inputUnreadable cause =>
    [cause.message]
  | .schemaMalformed problem => ["Schema parse error: " ++ problem, problem]
  | .valuesMalformed problem => [problem]
  | .schemaInvalid fault | .notWritten fault | .notRead _ fault => fault.causes

/-- A cause with `indent` in front of its lines but the first, which has `label`. -/
def causeText (label indent : List Char) (cause : String) : List Char :=
  label ++ ('\n' :: indent).intercalate (Text.splitAt '\n' cause.toList)

/-- The causes, one below the other and numbered if there are several. -/
def causesText (causes : List String) : List Char :=
  match causes with
  | [cause] => causeText (List.replicate 4 ' ') (List.replicate 4 ' ') cause
  | _ =>
    ['\n'].intercalate (causes.zipIdx.map fun entry =>
      causeText ((Integer.digits entry.2).leftpad 5 ' ' ++ [':', ' ']) (List.replicate 7 ' ')
        entry.1)

/-- The report of a failure. -/
def report (f : Failure) : String :=
  "Error: " ++ f.context ++
    (if f.causes.isEmpty then ""
    else "\n\nCaused by:\n" ++ String.ofList (causesText f.causes)) ++ "\n"

end Failure

/-- The outcome of a stage that failed. -/
def Outcome.failure (f : Failure) : Outcome :=
  ⟨1, "", [], f.report⟩

/-! ## Stages -/

/-- What the program rests on. -/
structure Libraries where
  /-- The engine that compiles patterns. -/
  engine : Engine
  /-- What is said of a text that is no schema document. -/
  schemaTelling : Json.Telling
  /-- What is said of a text that is no record document. -/
  recordTelling : Json.Telling
  /-- What is answered to arguments that ask for no task. -/
  answer : List String → Outcome

/-- What the program can read. -/
structure Inputs where
  /-- The texts at paths. -/
  files : String → Except FileFault String
  /-- The standard input. -/
  standardInput : Except FileFault String
  /-- What the environment asks to be shown of the log. -/
  asks : Event → Bool

/-- The text of a source; where it is a file that cannot be read, `refuse` of the path and the
cause. -/
def Source.text (inputs : Inputs) (refuse : String → FileFault → Failure) :
    Source → Except Failure String
  | .file path => (inputs.files path).mapError (refuse path)
  | .inline text => .ok text
  | .standardInput => inputs.standardInput.mapError .inputUnreadable

/-- The template of a schema source. -/
def Source.template (libraries : Libraries) (inputs : Inputs) (source : Source) :
    Except Failure Template := do
  let document ← source.text inputs .schemaUnreadable
  let schema ← (Schema.parse document).mapError fun problem =>
    .schemaMalformed (libraries.schemaTelling.message document problem)
  (schema.build libraries.engine).mapError .schemaInvalid

/-- The record of a source of values. -/
def Source.record (libraries : Libraries) (inputs : Inputs) (source : Source) :
    Except Failure Record := do
  let document ← source.text inputs .valuesUnreadable
  (Json.parseRecord document).mapError fun problem =>
    .valuesMalformed (libraries.recordTelling.message document problem)

/-- The lines of a text that hold more than white space, without the white space at their ends. -/
def nameLines (text : String) : List String :=
  (((Text.splitAt '\n' text.toList).map Text.trim).filter fun line => !line.isEmpty).map
    String.ofList

/-- The names of a task that has the given ones. -/
def namesToRead (inputs : Inputs) (names : List String) : Except Failure (List String) :=
  if names.isEmpty then (Source.standardInput.text inputs .valuesUnreadable).map nameLines
  else .ok names

/-- The name of the values of a source under a template. -/
def Source.name (libraries : Libraries) (inputs : Inputs) (t : Template) (source : Source) :
    Except Failure String := do
  let record ← source.record libraries inputs
  (t.write record).mapError .notWritten

/-! ## Tasks -/

/-- What is logged before a template is used. -/
def loadEvents (t : Template) : List Event :=
  [.built t.fields.length t.pattern, .loaded t.fields.length]

/-- What is logged when a name stands for no record. -/
def faultEvents (fault : Fault) : List Event :=
  match fault with
  | .noMatch name pattern => [.noMatch name pattern]
  | _ => []

/-- The records of names, each on lines of its own, up to the first name without one, and the
failure at that name. -/
def decodeNames (t : Template) (text : Record → List Char) : List String → Outcome
  | [] => .success ""
  | name :: rest =>
    match t.read name with
    | .error fault => (Outcome.failure (.notRead name fault)).behind "" (faultEvents fault)
    | .ok record =>
      (decodeNames t text rest).behind (String.ofList (text record) ++ "\n")
        [.read name record.size]

/-- How records are written: one alone with a line for each entry, several in a line each. -/
def recordWriter (names : List String) : Record → List Char :=
  if names.length = 1 then Json.prettyRecordText else Json.recordText

/-- What a task does with its template. -/
def Command.runWith (libraries : Libraries) (inputs : Inputs) (t : Template) : Command → Outcome
  | .encode _ values =>
    match values.name libraries inputs t with
    | .error f => .failure f
    | .ok name => (Outcome.success (name ++ "\n")).behind "" [.written name]
  | .decode _ names =>
    match namesToRead inputs names with
    | .error f => .failure f
    | .ok names => decodeNames t (recordWriter names) names
  | .pattern _ => .success (t.pattern ++ "\n")

/-- The source of the schema of a task. -/
def Command.schema : Command → Source
  | .encode schema _ | .decode schema _ | .pattern schema => schema

/-- The outcome of a task. -/
def Command.run (libraries : Libraries) (inputs : Inputs) (command : Command) : Outcome :=
  match command.schema.template libraries inputs with
  | .error f => .failure f
  | .ok t => (command.runWith libraries inputs t).behind "" (loadEvents t)

section Run

variable {libraries : Libraries} {inputs : Inputs} {command : Command}

/-- Without a template a task fails. -/
theorem Command.run_of_error {f : Failure}
    (h : command.schema.template libraries inputs = .error f) :
    command.run libraries inputs = .failure f := by
  rw [run, h]

/-- With a template a task goes on behind what is logged of the template. -/
theorem Command.run_of_ok {t : Template}
    (h : command.schema.template libraries inputs = .ok t) :
    command.run libraries inputs =
      (command.runWith libraries inputs t).behind "" (loadEvents t) := by
  rw [run, h]

end Run

/-- The name and the version of the program. -/
def versionText : String := "fncodec 0.2.0\n"

/-- The outcome for the arguments of the program. -/
def respond (libraries : Libraries) (inputs : Inputs) (arguments : List String) : Outcome :=
  match Invocation.parse? arguments with
  | none => libraries.answer arguments
  | some .version => .success versionText
  | some (.run verbosity command) =>
    (command.run libraries inputs).shown (Event.isShown inputs.asks verbosity)

/-! ## What is read -/

/-- The file of a source, if it is one. -/
def Source.paths : Source → List String
  | .file path => [path]
  | _ => []

/-- The files that a task may read. -/
def Command.paths : Command → List String
  | .encode schema values => schema.paths ++ values.paths
  | .decode schema _ | .pattern schema => schema.paths

/-- Whether a task may read the standard input. -/
def Command.readsStandardInput : Command → Bool
  | .encode _ values => values == .standardInput
  | .decode _ names => names.isEmpty
  | .pattern _ => false

/-- The task that the arguments ask for, if there is one. -/
def command? (arguments : List String) : Option Command :=
  match Invocation.parse? arguments with
  | some (.run _ command) => some command
  | _ => none

end TypedNames.Cli
