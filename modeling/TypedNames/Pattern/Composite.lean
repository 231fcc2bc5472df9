import TypedNames.Pattern.Chart

/-!
# Composite patterns

A composite pattern puts patterns and literal texts together. It can ask for the start and the end
of the text, and it captures what some of its patterns match. Its notation and the way in which it
is searched for are both read off from it.

## Main definitions

* `Composite` — a composite pattern.
* `Composite.text` — its notation.
* `Composite.chart` — the chart that starts with it.
* `Composite.search` — what it captures where it is found first in a text.
-/

set_option autoImplicit false

namespace TypedNames

/-- A pattern that captures parts of a text. -/
inductive Composite
  /-- Nothing at all. -/
  | empty
  /-- The start of the text. -/
  | start
  /-- The end of the text. -/
  | stop
  /-- A literal text. -/
  | literal (text : List Char)
  /-- What a pattern matches, which is captured. -/
  | capture (p : Pattern)
  /-- A composite pattern in parentheses that capture nothing. -/
  | group (c : Composite)
  /-- One composite pattern and then another. -/
  | seq (c d : Composite)
  deriving DecidableEq, Repr

namespace Composite

/-- The notation of a composite pattern. -/
def text : Composite → String
  | .empty => ""
  | .start => "^"
  | .stop => "$"
  | .literal s => escaped s
  | .capture p => "(" ++ p.text ++ ")"
  | .group c => "(?:" ++ c.text ++ ")"
  | .seq c d => c.text ++ d.text

end Composite

namespace Chart

variable {α : Type}

/-- The chart that goes on only at the start of the text. -/
def atStart : Chart α → Chart α
  | [] => []
  | here :: after => here :: after.map fun _ => none

/-- The chart that goes on only at the end of the text. -/
def atEnd : Chart α → Chart α
  | [] => []
  | [last] => [last]
  | _ :: after => none :: atEnd after

/-- Everything has been found at every place. -/
def anywhere (found : α) (text : List Char) : Chart α :=
  List.replicate (text.length + 1) (some ([], found))

/-- The chart whose outcomes have taken nothing yet. -/
def restart (chart : Chart α) : Chart α :=
  chart.map fun outcome => outcome.map fun found => ([], found.2)

/-- The chart with what was taken put in front of what was captured before. -/
def capture (chart : Chart (List (List Char))) : Chart (List (List Char)) :=
  chart.map fun outcome => outcome.map fun found => ([], found.1 :: found.2)

end Chart

namespace Composite

/-- The chart that starts with a composite pattern, where `after` is the chart of what follows
it. -/
def chart (text : List Char) : Composite → Chart (List (List Char)) → Chart (List (List Char))
  | .empty, after => after
  | .start, after => after.atStart
  | .stop, after => after.atEnd
  | .literal s, after => Chart.literal text after s
  | .capture p, after => (p.chart text after.restart).capture
  | .group c, after => c.chart text after
  | .seq c d, after => c.chart text (d.chart text after)

/-- What the pattern captures at the first place of the text where it is found. -/
def search (c : Composite) (text : List Char) : Option (List (List Char)) :=
  ((c.chart text (Chart.anywhere [] text)).findSome? id).map Prod.snd

end Composite

end TypedNames
