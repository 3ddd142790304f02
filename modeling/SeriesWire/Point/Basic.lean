import SeriesWire.FieldSet

/-! Points: a series key, a set of fields and a time, the first two as they are
written. The line of a point joins the three with spaces; without a time the
server's own time counts and the line ends behind the fields. -/
namespace SeriesWire

/-- A time in nanoseconds since the beginning of 1970. -/
abbrev Timestamp := Int64

def Timestamp.encode (t : Timestamp) : Bytes := Utf8.encodeChars (Decimal.integer t.toInt)

/-- One line of the protocol. -/
structure Point where
  /-- The escaped measurement and tags. -/
  key : Bytes
  fields : FieldSet
  time : Option Timestamp
deriving DecidableEq

namespace Point

/-- The line, without the line break behind it. -/
def line (p : Point) : Bytes :=
  p.key ++ Octet.space :: p.fields.bytes ++
    (match p.time with
    | none => []
    | some t => Octet.space :: Timestamp.encode t)

/-- The number of octets of the line, from the numbers of its parts. -/
def size (p : Point) : Nat :=
  p.key.length + 1 + p.fields.bytes.length +
    (match p.time with
    | none => 0
    | some t => 1 + (Timestamp.encode t).length)

/-- Puts the line behind the octets of a buffer, part by part. -/
def appendTo (p : Point) (buffer : Array UInt8) : Array UInt8 :=
  let front := (buffer ++ p.key).push Octet.space ++ p.fields.bytes
  match p.time with
  | none => front
  | some t => front.push Octet.space ++ Timestamp.encode t

theorem length_line (p : Point) : p.line.length = p.size := by
  cases h : p.time with
  | none => simp only [line, size, h, List.length_append, List.length_cons, List.length_nil]; omega
  | some t => simp only [line, size, h, List.length_append, List.length_cons]; omega

theorem toList_appendTo (p : Point) (buffer : Array UInt8) :
    (p.appendTo buffer).toList = buffer.toList ++ p.line := by
  cases h : p.time <;> simp [appendTo, line, h]

def display (p : Point) : String := Utf8.decodeLossy p.line

def withTime (p : Point) (time : Option Timestamp) : Point := { p with time }

end Point

end SeriesWire
