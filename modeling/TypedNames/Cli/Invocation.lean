/-!
# Command line arguments

The program has three verbs. Each takes a schema, from a file or as it is; `encode` takes values
from a file, as they are, or from the standard input; `decode` takes names, or the lines of the
standard input if there are none.

An option with a value is `--name value` or `--name=value`; the short ones are also `-n value`,
`-nvalue` and `-n=value`, and may follow flags behind one dash. A value in an argument of its own
must not start with a dash, unless it is nothing else. No option may be given twice, and behind
`--` there are only names. The flag `-v` or `--verbose` may stand anywhere and any number of
times; how often it is given says how much of the log is shown. If it stands behind the verb, those
in front of the verb do not count.

Only tasks and the version are invocations here. What is answered to a request for help and to
arguments that are not well formed is left to the library that reads arguments.

## Main definitions

* `Cli.Invocation` — what the program is asked to do.
* `Cli.Invocation.parse?` — the invocation that arguments make, if they are well formed.
-/

set_option autoImplicit false

namespace TypedNames.Cli

/-- Where a text comes from. -/
inductive Source
  /-- It is the content of a file. -/
  | file (path : String)
  /-- It is given as it is. -/
  | inline (text : String)
  /-- It is the standard input. -/
  | standardInput
  deriving DecidableEq, Repr

/-- A task of the program. -/
inductive Command
  /-- Write the name of the values. -/
  | encode (schema values : Source)
  /-- Read names, or the lines of the standard input if there are none. -/
  | decode (schema : Source) (names : List String)
  /-- Write the pattern of the names. -/
  | pattern (schema : Source)
  deriving DecidableEq, Repr

/-- What the program is asked to do. -/
inductive Invocation
  /-- Tell the version. -/
  | version
  /-- Do a task, with the given number of flags for more of the log. -/
  | run (verbosity : Nat) (command : Command)
  deriving DecidableEq, Repr

/-- The verb of a task. -/
inductive Verb
  | encode
  | decode
  | pattern
  deriving DecidableEq, Repr

/-- The verb that an argument names. -/
def Verb.ofString? : String → Option Verb
  | "encode" => some .encode
  | "decode" => some .decode
  | "pattern" => some .pattern
  | _ => none

/-- An option with a value. -/
inductive Choice
  /-- The file of the schema. -/
  | schemaFile
  /-- The schema itself. -/
  | schemaText
  /-- The file of the values. -/
  | valuesFile
  /-- The values themselves. -/
  | valuesText
  deriving DecidableEq, Repr

/-- The option of a verb with the given long name. -/
def Verb.longChoice? (verb : Verb) (name : List Char) : Option Choice :=
  match String.ofList name with
  | "schema" => some .schemaFile
  | "schema-json" => some .schemaText
  | "input" => if verb = .encode then some .valuesFile else none
  | "values" => if verb = .encode then some .valuesText else none
  | _ => none

/-- The option of a verb with the given short name. -/
def Verb.shortChoice? (verb : Verb) (name : Char) : Option Choice :=
  match name with
  | 's' => some .schemaFile
  | 'i' => if verb = .encode then some .valuesFile else none
  | _ => none

/-- What an argument behind a verb is. -/
inductive Argument
  /-- The mark behind which there are only names. -/
  | namesOnly
  /-- Flags. -/
  | flags
  /-- An option with its value. -/
  | given (choice : Choice) (value : String)
  /-- An option whose value is the next argument. -/
  | awaiting (choice : Choice)
  /-- A name. -/
  | plain
  /-- Nothing that the verb takes. -/
  | unknown
  deriving DecidableEq, Repr

/-- What flags and at last perhaps a short option behind one dash are. -/
def Verb.readCluster (verb : Verb) : List Char → Argument
  | [] => .flags
  | c :: rest =>
    if c = 'v' then verb.readCluster rest
    else match verb.shortChoice? c, rest with
      | none, _ => .unknown
      | some choice, [] => .awaiting choice
      | some choice, '=' :: value => .given choice (String.ofList value)
      | some choice, value => .given choice (String.ofList value)

/-- What the part of an argument behind two dashes is. -/
def Verb.readLong (verb : Verb) (body : List Char) : Argument :=
  let name := body.takeWhile (· != '=')
  match verb.longChoice? name, body.dropWhile (· != '=') with
  | some choice, '=' :: value => .given choice (String.ofList value)
  | some choice, _ => .awaiting choice
  | none, _ => if body = "verbose".toList then .flags else .unknown

/-- What an argument behind a verb is. -/
def Verb.readArgument (verb : Verb) : List Char → Argument
  | ['-', '-'] => .namesOnly
  | '-' :: '-' :: body => verb.readLong body
  | '-' :: c :: rest => verb.readCluster (c :: rest)
  | _ => .plain

/-- How many flags an argument holds. -/
def flagCount : List Char → Nat
  | '-' :: '-' :: body => if body = "verbose".toList then 1 else 0
  | '-' :: cluster => (cluster.takeWhile (· == 'v')).length
  | _ => 0

/-- What the arguments behind a verb give. -/
structure Given where
  /-- Options with their values, in order. -/
  choices : List (Choice × String)
  /-- Names, in order. -/
  names : List String
  /-- The number of flags. -/
  verbosity : Nat

namespace Given

/-- The same with an option in front. -/
def withChoice (g : Given) (choice : Choice) (value : String) : Given :=
  { g with choices := (choice, value) :: g.choices }

/-- The same with a name in front. -/
def withName (g : Given) (name : String) : Given :=
  { g with names := name :: g.names }

/-- The same with more flags. -/
def withFlags (g : Given) (count : Nat) : Given :=
  { g with verbosity := count + g.verbosity }

end Given

/-- Whether an argument may be the value of the option in front of it. -/
def isDetachedValue (argument : List Char) : Bool :=
  argument.head? != some '-' || argument == ['-']

/-- What the arguments behind a verb give, if the verb takes all of them. -/
def Verb.readArguments? (verb : Verb) : List String → Option Given
  | [] => some ⟨[], [], 0⟩
  | argument :: rest =>
    match verb.readArgument argument.toList with
    | .namesOnly => some ⟨[], rest, 0⟩
    | .flags => (verb.readArguments? rest).map fun g => g.withFlags (flagCount argument.toList)
    | .given choice value =>
      (verb.readArguments? rest).map fun g =>
        (g.withChoice choice value).withFlags (flagCount argument.toList)
    | .awaiting choice =>
      match rest with
      | [] => none
      | value :: more =>
        if isDetachedValue value.toList then
          (verb.readArguments? more).map fun g =>
            (g.withChoice choice value).withFlags (flagCount argument.toList)
        else none
    | .plain => (verb.readArguments? rest).map fun g => g.withName argument
    | .unknown => none

/-- The values of an option. -/
def Given.values (g : Given) (choice : Choice) : List String :=
  (g.choices.filter fun entry => entry.1 == choice).map Prod.snd

/-- The source that a file option and a text option name; `fallback` if there is none of them. -/
def Given.source? (g : Given) (file text : Choice) (fallback : Option Source) : Option Source :=
  match g.values file, g.values text with
  | [path], [] => some (.file path)
  | [], [text] => some (.inline text)
  | [], [] => fallback
  | _, _ => none

/-- The task that a verb and its arguments make. -/
def Given.command? (g : Given) (verb : Verb) : Option Command := do
  let schema ← g.source? .schemaFile .schemaText none
  match verb with
  | .encode =>
    let values ← g.source? .valuesFile .valuesText (some .standardInput)
    if g.names.isEmpty then some (.encode schema values) else none
  | .decode => some (.decode schema g.names)
  | .pattern => if g.names.isEmpty then some (.pattern schema) else none

/-- What flags in front of a verb ask for: `true` for the version, `false` for nothing. -/
def readLeadingFlags? : List Char → Option Bool
  | ['-', '-', 'v', 'e', 'r', 's', 'i', 'o', 'n'] => some true
  | ['-', '-', 'v', 'e', 'r', 'b', 'o', 's', 'e'] => some false
  | '-' :: c :: rest =>
    match (c :: rest).dropWhile (· == 'v') with
    | [] => some false
    | d :: _ => if d = 'V' then some true else none
  | _ => none

/-- The invocation that the arguments make behind `front` flags, if they are well formed. -/
def Invocation.parseBehind? (front : Nat) : List String → Option Invocation
  | [] => none
  | argument :: rest =>
    match Verb.ofString? argument with
    | some verb => do
      let given ← verb.readArguments? rest
      let command ← given.command? verb
      return .run (if given.verbosity = 0 then front else given.verbosity) command
    | none =>
      match readLeadingFlags? argument.toList with
      | some true => some .version
      | some false => parseBehind? (front + flagCount argument.toList) rest
      | none => none

/-- The invocation that the arguments make, if they are well formed. -/
def Invocation.parse? (arguments : List String) : Option Invocation :=
  parseBehind? 0 arguments

end TypedNames.Cli
