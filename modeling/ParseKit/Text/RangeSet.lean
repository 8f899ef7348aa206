/-!
# Sets of characters given by ranges

A property of characters that a standard fixes by data (letters, white
space, decimal digits) is a set of code points, and such a set is a union
of ranges. `RangeSet` stores the ranges by their **edges** in increasing
order: the first edge opens a range, the second closes it, the third opens
the next one, and so on. A code point belongs to the set when the number
of edges at or below it is odd, so that membership is one bisection.
-/

namespace ParseKit.Text

/-- **A set of code points**, as the increasing list of the points at which
membership changes. -/
structure RangeSet where
  /-- The edges: even positions open a range, odd positions close it. -/
  edges : Array Nat
  deriving Inhabited

namespace RangeSet

/-- The number of edges at or below `c`, looked for between the positions
`lo` and `hi`; sixteen halvings are enough for every table of fewer than
65536 edges. -/
def bisect (edges : Array Nat) (c : Nat) : Nat → Nat → Nat → Nat
  | 0, lo, _ => lo
  | fuel + 1, lo, hi =>
    if lo < hi then
      let mid := (lo + hi) / 2
      if edges.getD mid 0 ≤ c then bisect edges c fuel (mid + 1) hi
      else bisect edges c fuel lo mid
    else lo

/-- The number of edges at or below `c`. -/
def rank (s : RangeSet) (c : Nat) : Nat :=
  bisect s.edges c 16 0 s.edges.size

/-- Whether the code point `c` is in the set. -/
def contains (s : RangeSet) (c : Nat) : Bool :=
  s.rank c % 2 == 1

/-- The first code point of the range that holds `c`; meaningful only when
`c` is in the set. -/
def rangeStart (s : RangeSet) (c : Nat) : Nat :=
  s.edges.getD (s.rank c - 1) 0

end RangeSet

end ParseKit.Text
