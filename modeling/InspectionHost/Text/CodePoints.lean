/-!
# Sets of code points

A set of code points is given by its ranges, in increasing order and apart from each other, so
that a binary search finds out whether a code point belongs to it.

## Main definitions

* `CodePoints` : a set of code points.
* `CodePoints.contains` : whether a character belongs to a set.
-/

namespace InspectionHost.Text

/-- A set of code points: the first and the last one of each range, in increasing order. -/
structure CodePoints where
  ranges : Array (Nat × Nat)

namespace CodePoints

/-- Whether the code point `n` is in one of the ranges with index from `low` up to, but not
including, `high`; `fuel` bounds the number of halvings. -/
def search (s : CodePoints) (n : Nat) : Nat → Nat → Nat → Bool
  | 0, _, _ => false
  | fuel + 1, low, high =>
    if low < high then
      let middle := (low + high) / 2
      match s.ranges[middle]? with
      | none => false
      | some (first, last) =>
        if n < first then search s n fuel low middle
        else if last < n then search s n fuel (middle + 1) high
        else true
    else false

/-- Whether a character belongs to a set. -/
def contains (s : CodePoints) (c : Char) : Bool :=
  s.search c.toNat s.ranges.size 0 s.ranges.size

end CodePoints

end InspectionHost.Text
