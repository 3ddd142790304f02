import SeriesWire.Text.Quoted

/-! Why no point can be built from some input. -/
namespace SeriesWire

/-- The texts of a point in which a line break has no escape. -/
inductive NamePlace where
  | measurement
  | tagKey
  | tagValue
  | fieldKey
deriving DecidableEq, Repr

def NamePlace.name : NamePlace → String
  | .measurement => "measurement"
  | .tagKey => "tag key"
  | .tagValue => "tag value"
  | .fieldKey => "field key"

inductive PointError where
  | emptyMeasurement
  | noFields
  | emptyTagKey
  | emptyFieldKey
  | nonFiniteFloat (key : String)
  | lineBreak (place : NamePlace) (text : String)
  | keyTooLong (length : Nat)
deriving DecidableEq, Repr

def maxKeyLength : Nat := 65535

def PointError.message : PointError → String
  | .emptyMeasurement => "measurement name should not be empty"
  | .noFields => "at least one field is required"
  | .emptyTagKey => "tag key should not be empty"
  | .emptyFieldKey => "field key should not be empty"
  | .nonFiniteFloat key => s!"field {key} has a non-finite float value"
  | .lineBreak place text => s!"{place.name} {Text.quoted text} contains a line break"
  | .keyTooLong length => s!"series key length {length} exceeds the max limit {maxKeyLength}"

end SeriesWire
