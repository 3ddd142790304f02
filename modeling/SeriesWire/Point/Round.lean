import SeriesWire.Duration
import SeriesWire.Point.Basic

/-! Rounding of times to a unit. -/
namespace SeriesWire

/-- The multiple of `unit` nearest to `time`, of two the later one. -/
def nearestMultiple (unit : Nat) (time : Int) : Int :=
  let past := time % unit
  if past + past < unit then time - past else time + (unit - past)

/-- The time that some nanoseconds since the beginning of 1970 are, if it is in range. -/
def Timestamp.ofInt? (nanos : Int) : Option Timestamp :=
  if Int64.minValue.toInt ≤ nanos ∧ nanos ≤ Int64.maxValue.toInt then some (Int64.ofInt nanos)
  else none

/-- A time rounded to a unit. It stays as it is if there is no unit or if the rounded
time is out of range. -/
def Timestamp.round (unit : Duration) (time : Timestamp) : Timestamp :=
  if unit.toNanos = 0 then time
  else (Timestamp.ofInt? (nearestMultiple unit.toNanos time.toInt)).getD time

/-- The point with its time, if it has one, rounded to a unit. -/
def Point.round (unit : Duration) (p : Point) : Point :=
  { p with time := p.time.map (Timestamp.round unit) }

end SeriesWire
