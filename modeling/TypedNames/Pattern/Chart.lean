import TypedNames.Pattern.Basic

/-!
# Matching by charts

Where a pattern can match in several ways, it prefers to repeat as often as it can, and the first
of two alternatives; it settles for a less preferred way only if what follows fails after all
better ones. A chart records, for every tail of a text, the outcome of going on from there. From
the chart of what follows a pattern, the chart that starts with the pattern is computed in one go
from the end of the text to its start, so that no tail is tried twice.

## Main definitions

* `Chart` — an outcome for every tail of a text, the whole text first.
* `Pattern.chart` — the chart that starts with a pattern, from the chart of what follows it.

## Implementation notes

An outcome is the characters that the pattern takes together with what was found after them. Since
a chart is computed from the end, each step puts one character in front of those taken by a
shorter tail and nothing is copied.
-/

set_option autoImplicit false

namespace TypedNames

/-- For every tail of a text, the longest first and the empty one last: the characters taken from
it and what was found after them, if going on from there succeeds. -/
abbrev Chart (α : Type) := List (Option (List Char × α))

namespace Chart

variable {α : Type}

/-- An outcome with one more character taken in front. -/
def grow (c : Char) (outcome : Option (List Char × α)) : Option (List Char × α) :=
  outcome.map fun found => (c :: found.1, found.2)

/-- First a character that is accepted. -/
def one (accepts : Char → Bool) (text : List Char) (after : Chart α) : Chart α :=
  List.zipWith (fun c next => if accepts c then grow c next else none) text after.tail ++ [none]

/-- First as many accepted characters as possible, and none at worst. -/
def many (accepts : Char → Bool) : List Char → Chart α → Chart α
  | c :: text, here :: after =>
    let rest := many accepts text after
    (if accepts c then (grow c (rest.headD none)).or here else here) :: rest
  | _, after => after

/-- First a literal text. -/
def literal (text : List Char) (after : Chart α) : List Char → Chart α
  | [] => after
  | c :: rest => one (· == c) text (literal text after rest)

/-- One chart, and another where the first fails. -/
def orElse (first second : Chart α) : Chart α :=
  List.zipWith Option.or first second

end Chart

/-- The chart that starts with the pattern, where `after` is the chart of what follows it. -/
def Pattern.chart {α : Type} (text : List Char) : Pattern → Chart α → Chart α
  | .one k, after => Chart.one k.has text after
  | .literal s, after => Chart.literal text after s
  | .optional k, after => Chart.orElse (Chart.one k.has text after) after
  | .exactly k n, after => Nat.repeat (Chart.one k.has text) n after
  | .atLeast k n, after => Nat.repeat (Chart.one k.has text) n (Chart.many k.has text after)
  | .oneOrMore k, after => Chart.one k.has text (Chart.many k.has text after)
  | .seq p q, after => p.chart text (q.chart text after)
  | .alt p q, after => Chart.orElse (p.chart text after) (q.chart text after)
  | .group p, after => p.chart text after

end TypedNames
