import SeriesWire.Batch
import SeriesWire.Point.Split
import SeriesWire.Width

/-! What a writer has to know of the records that it sends. Points are such records,
and a batch of points is such a batch; callers can bring their own. -/
namespace SeriesWire

/-- Records that can be sent as lines. `split` also gives the record as the division
leaves it, for records that keep count of what is asked of them. -/
class LineRecord (α : Type) where
  round : Duration → α → α
  /-- Without a time of its own a record gets the time of its arrival. -/
  hasTime : α → Bool
  size : α → Nat
  /-- The line, without the line break behind it. -/
  line : α → Bytes
  /-- Records with lines of at most the given size that say the same together. -/
  split : Nat → α → List α × α

instance : LineRecord Point where
  round := Point.round
  hasTime p := p.time.isSome
  size := Point.size
  line := Point.line
  split size p := (p.split size, p)

namespace LineRecord

variable {α : Type} [LineRecord α]

def roundTo (unit? : Option Duration) (record : α) : α :=
  match unit? with
  | none => record
  | some unit => round unit record

/-- The size that a record is announced with, its line break included. -/
def octets (width : Width) (record : α) : Nat := width.add (size record) 1

/-- A record that has a time and, as announced, does not fit into `limit` octets. -/
def isOversized (width : Width) (limit : Nat) (record : α) : Bool :=
  hasTime record && limit < octets width record

end LineRecord

/-- Records that are sent together, with the tag of their precision. -/
structure RecordBatch (α : Type) where
  precision : String
  records : List α
deriving DecidableEq

def Batch.toRecords (batch : Batch) : RecordBatch Point :=
  ⟨batch.config.precision, batch.points⟩

def Batch.withRecords (batch : Batch) (records : RecordBatch Point) : Batch :=
  { batch with points := records.records }

end SeriesWire
