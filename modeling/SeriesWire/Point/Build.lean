import SeriesWire.KeyTable
import SeriesWire.Point.Basic
import SeriesWire.Point.Error

/-! Points from names and values. The checks run over the input as it was given,
entries that a later one replaces included, and the first fault counts. -/
namespace SeriesWire

/-- A key and its value, which is part of what tells series apart. -/
abbrev Tag := String × String

/-- A tag as it is written, with the separator before it. -/
def Tag.encode (tag : Tag) : Bytes :=
  Octet.comma :: Escape.tag (Utf8.encode tag.1) ++
    Octet.equals :: Escape.tag (Utf8.encode tag.2)

namespace Point

def breaksLine (b : UInt8) : Bool := b == Octet.newline || b == Octet.carriageReturn

/-- Names may hold no line break. -/
def checkName (place : NamePlace) (text : String) : Except PointError Unit :=
  if (Utf8.encode text).any breaksLine then .error (.lineBreak place text) else .ok ()

def checkMeasurement (measurement : String) : Except PointError Unit :=
  if measurement.isEmpty then .error .emptyMeasurement
  else checkName .measurement measurement

def checkTag (tag : Tag) : Except PointError Unit := do
  if tag.1.isEmpty then .error .emptyTagKey
  checkName .tagKey tag.1
  checkName .tagValue tag.2

def checkField (field : Field) : Except PointError Unit := do
  if field.1.isEmpty then .error .emptyFieldKey
  checkName .fieldKey field.1
  if !field.2.isFinite then .error (.nonFiniteFloat field.1)

/-- The tags that are written: the last value of each key, without empty values,
in the order of the keys. -/
def writtenTags (tags : List Tag) : List Tag :=
  (KeyTable.ofList tags).toList.filter fun tag => !tag.2.isEmpty

/-- The fields that are written: the last value of each key, in the order of the keys. -/
def writtenFields (fields : List Field) : List Field :=
  (KeyTable.ofList fields).toList

/-- The series key of a measurement and the tags written with it. -/
def seriesKey (measurement : String) (tags : List Tag) : Bytes :=
  Escape.measurement (Utf8.encode measurement) ++ tags.flatMap Tag.encode

/-- The point of a measurement with some tags and fields. Of two tags or fields
with one key the later counts; a tag whose value is empty is left out. -/
def build (measurement : String) (tags : List Tag) (fields : List Field)
    (time : Option Timestamp) : Except PointError Point := do
  checkMeasurement measurement
  tags.forM checkTag
  fields.forM checkField
  if fields.isEmpty then .error .noFields
  let key := seriesKey measurement (writtenTags tags)
  if maxKeyLength < key.length then .error (.keyTooLong key.length)
  .ok { key, fields := FieldSet.ofFields (writtenFields fields), time }

end Point

end SeriesWire
