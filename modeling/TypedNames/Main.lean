import TypedNames.Cli.Run

/-!
# The command line program

Reads what the task may need, and writes what the program answers. What comes from the libraries
that it rests on is stood in for: no pattern is refused, a problem with a document is named without
its place, and arguments that ask for no task are answered with one line.
-/

set_option autoImplicit false

namespace TypedNames

/-- Why a file could not be read. -/
def faultOfError : IO.Error → Cli.FileFault
  | .permissionDenied .. => .denied
  | .inappropriateType (some _) .. => .notFolder
  | .inappropriateType none .. => .isFolder
  | .invalidArgument .. => .tooLong
  | .userError _ => .notText
  | _ => .missing

/-- The text that is read, or why it cannot be. -/
def tryRead (read : IO String) : IO (Except Cli.FileFault String) := do
  try
    return .ok (← read)
  catch e =>
    return .error (faultOfError e)

/-- What the program can read in answer to the arguments. Nothing is asked of the environment. -/
def gatherInputs (arguments : List String) : IO Cli.Inputs := do
  match Cli.command? arguments with
  | none => return ⟨fun _ => .error .missing, .ok "", fun _ => false⟩
  | some command =>
    let contents ← command.paths.mapM fun (path : String) =>
      return (path, ← tryRead (IO.FS.readFile path))
    let standardInput ←
      if command.readsStandardInput then tryRead (do (← IO.getStdin).readToEnd) else pure (.ok "")
    return ⟨fun path => (contents.lookup path).getD (.error .missing), standardInput,
      fun _ => false⟩

/-- A problem with a document, without the place where it is. -/
def telling : Json.Telling where
  form _ := "not a JSON document"
  place _ := (0, 0)

/-- What this program rests on: every pattern is compiled, and arguments that ask for no task are
answered with the tasks that there are. -/
def ownLibraries : Cli.Libraries where
  engine := .unbounded
  schemaTelling := telling
  recordTelling := telling
  answer _ := ⟨2, "", [], "Usage: fncodec [-v] encode|decode|pattern [options] [names]\n"⟩

end TypedNames

/-- Answers the arguments. -/
def main (arguments : List String) : IO UInt32 := do
  let inputs ← TypedNames.gatherInputs arguments
  let outcome := TypedNames.Cli.respond TypedNames.ownLibraries inputs arguments
  IO.print outcome.out
  for event in outcome.log do
    IO.eprintln event.text
  IO.eprint outcome.err
  return outcome.code.toUInt32
