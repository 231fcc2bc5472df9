import TypedNames.Text.Quoted

/-!
# The log

While a task runs, it logs what happens, one line for each event. Flags of the program choose the
levels whose events are shown; without flags the environment chooses. A line also has the time, the
level and the place in the program, which are left out here.

## Main definitions

* `Cli.Event` — what is logged.
* `Cli.Event.level` — how detailed an event is.
* `Cli.Event.text` — the words of its line.
-/

set_option autoImplicit false

namespace TypedNames.Cli

/-- How detailed an event is. -/
inductive Level
  /-- One step of a task. -/
  | debug
  /-- One record. -/
  | trace
  deriving DecidableEq, Repr

/-- What is logged. -/
inductive Event
  /-- A template was built: the number of its fields and its pattern. -/
  | built (fields : Nat) (pattern : String)
  /-- The template of the task is there. -/
  | loaded (fields : Nat)
  /-- A name does not match the pattern. -/
  | noMatch (name pattern : String)
  /-- The name of a record was written. -/
  | written (name : String)
  /-- The record of a name was read, with this number of entries. -/
  | read (name : String) (entries : Nat)
  deriving DecidableEq, Repr

/-- The level of an event. -/
def Event.level : Event → Level
  | .built .. | .loaded _ | .noMatch .. => .debug
  | .written _ | .read .. => .trace

/-- The words of an event. -/
def Event.text : Event → String
  | .built fields pattern =>
    "compiled record codec fields=" ++ toString fields ++ " pattern=" ++ pattern
  | .loaded fields => "loaded schema fields=" ++ toString fields
  | .noMatch name pattern =>
    "filename does not match pattern input=" ++ Text.quoted name ++ " pattern=" ++ pattern
  | .written name => "encoded record output=" ++ name
  | .read name entries =>
    "decoded record input=" ++ Text.quoted name ++ " fields=" ++ toString entries

/-- Whether an event is shown if a flag for more of the log is given `verbosity` times, where `asks`
tells what the environment asks for. Flags win over the environment. -/
def Event.isShown (asks : Event → Bool) (verbosity : Nat) (event : Event) : Bool :=
  match verbosity with
  | 0 => asks event
  | 1 => event.level == .debug
  | _ => true

end TypedNames.Cli
