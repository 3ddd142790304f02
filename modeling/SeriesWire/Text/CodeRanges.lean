/-! Sets of code points, given by the points at which they begin and end in turn. -/
namespace SeriesWire.Text

/-- Ascending code points: the set begins at the first, ends before the second,
begins again at the third, and so on. -/
structure CodeRanges where
  bounds : Array Nat

namespace CodeRanges

/-- The number of bounds up to `point`, where all bounds before `low` and none from
`high` on lie there. -/
def rank (ranges : CodeRanges) (point low high : Nat) : Nat :=
  if h : low < high then
    let middle := (low + high) / 2
    if ranges.bounds.getD middle 0 ≤ point then rank ranges point (middle + 1) high
    else rank ranges point low middle
  else low
termination_by high - low

/-- Whether a character is in the set: an odd number of bounds lies up to it. -/
def contains (ranges : CodeRanges) (c : Char) : Bool :=
  ranges.rank c.toNat 0 ranges.bounds.size % 2 == 1

end CodeRanges

end SeriesWire.Text
