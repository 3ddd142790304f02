import SeriesWire.Point.Basic

/-! Division of a point into smaller ones at the borders of its fields. -/
namespace SeriesWire.Point

/-- The room for fields in a line of `size` octets with the key and the time of
`p`; it is negative if the rest of the line alone is longer. -/
def room (p : Point) (time : Timestamp) (size : Nat) : Int :=
  size - (p.key.length + (Timestamp.encode time).length + 2 : Nat)

/-- Points that share the fields of `p` in order, each with its key and its time, and
with lines of at most `size` octets where they have more than one field. A point
without time stays whole, as the server would give its parts different times. -/
def split (size : Nat) (p : Point) : List Point :=
  match p.time with
  | none => [p]
  | some time =>
    if p.size ≤ size then [p]
    else (p.fields.divide (p.room time size)).map fun fields => { p with fields }

end SeriesWire.Point
