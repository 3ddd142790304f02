/-! Spans of time in whole nanoseconds. -/
namespace SeriesWire

/-- A span of time, from nothing to 2^64 seconds. -/
structure Duration where
  seconds : UInt64
  nanos : Fin 1000000000
deriving DecidableEq, Repr

namespace Duration

def toNanos (d : Duration) : Nat := d.seconds.toNat * 1000000000 + d.nanos

def zero : Duration := ⟨0, 0, by decide⟩

end Duration

end SeriesWire
