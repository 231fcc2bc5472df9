/-!
# Tables of code points

A property of characters that no short rule describes is given by a table: the closed ranges of
code points that have it, in increasing order and apart from one another.

## Main definitions

* `Ranges` — such a table.
* `Ranges.contains` — whether a code point lies in one of the ranges, by bisection.
-/

set_option autoImplicit false

namespace TypedNames.Text

/-- Closed ranges `(first, last)` of code points, in increasing order and disjoint. -/
abbrev Ranges := Array (Nat × Nat)

namespace Ranges

/-- Whether `code` lies in one of the ranges with index in `[low, high)`. -/
def containsBetween (table : Ranges) (code low high : Nat) : Bool :=
  if low < high then
    match table[(low + high) / 2]? with
    | none => false
    | some (first, last) =>
      if code < first then containsBetween table code low ((low + high) / 2)
      else if last < code then containsBetween table code ((low + high) / 2 + 1) high
      else true
  else false
termination_by high - low

/-- Whether `code` lies in one of the ranges of the table. -/
def contains (table : Ranges) (code : Nat) : Bool :=
  containsBetween table code 0 table.size

end Ranges

end TypedNames.Text
