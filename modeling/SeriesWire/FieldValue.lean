import SeriesWire.Text.Utf8
import SeriesWire.Decimal.FloatText
import SeriesWire.Escape

/-! Values of fields and their written form. A suffix tells whole numbers from
floats; a float has none. -/
namespace SeriesWire

/-- What a field can hold. Floats are told apart by their bits. -/
inductive FieldValue where
  | float (value : Binary64)
  | integer (value : Int64)
  | unsigned (value : UInt64)
  | string (value : String)
  | boolean (value : Bool)
deriving DecidableEq

namespace FieldValue

/-- Only finite floats have a written form. -/
def isFinite : FieldValue → Bool
  | .float x => x.isFinite
  | _ => true

def encode : FieldValue → Bytes
  | .float x => Utf8.encodeChars (Decimal.float x)
  | .integer i => Utf8.encodeChars (Decimal.integer i.toInt ++ ['i'])
  | .unsigned n => Utf8.encodeChars (Decimal.natural n.toNat ++ ['u'])
  | .string s => Escape.quoted (Utf8.encode s)
  | .boolean true => Utf8.encode "true"
  | .boolean false => Utf8.encode "false"

end FieldValue

end SeriesWire
