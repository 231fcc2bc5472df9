/-!
# Engines

An engine compiles the notation of a pattern before names are matched. It can refuse to do so:
because the notation is none, or because the compiled form takes more bytes than a limit. How large
the compiled form is depends on the engine, so it is left open here.

## Main definitions

* `Engine` — an engine, by the size of what it compiles and by what it refuses.
* `Engine.Refusal` — why an engine compiles no pattern.
* `Engine.bySize` — an engine that refuses nothing but what is too large.
-/

set_option autoImplicit false

namespace TypedNames

namespace Engine

/-- Why an engine compiles no pattern. -/
inductive Refusal
  /-- The text is not the notation of a pattern. -/
  | malformed (message : String)
  /-- The compiled form takes more bytes than the limit. -/
  | tooLarge (limit : Nat)
  deriving DecidableEq

/-- How a refusal is told. -/
def Refusal.message : Refusal → String
  | .malformed message => message
  | .tooLarge limit => "Compiled regex exceeds size limit of " ++ toString limit ++ " bytes."

/-- The largest number of bytes that a compiled pattern may take, ten mebibytes. -/
def sizeLimit : Nat := 10485760

end Engine

/-- An engine for patterns. -/
structure Engine where
  /-- How many bytes the compiled form of a notation takes. -/
  size : String → Nat
  /-- Why the engine does not compile a notation, if it does not. -/
  refusal? : String → Option Engine.Refusal

namespace Engine

/-- The engine that compiles what is not too large. -/
def bySize (size : String → Nat) : Engine where
  size := size
  refusal? text := if size text ≤ sizeLimit then none else some (.tooLarge sizeLimit)

/-- The engine that compiles everything. -/
def unbounded : Engine :=
  bySize fun _ => 0

end Engine

end TypedNames
