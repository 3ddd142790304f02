/-! Octets, the unit in which lines are measured and sent. The named ones are the
octets with a meaning of their own in a line. -/
namespace SeriesWire

/-- Octets in the order in which they travel. -/
abbrev Bytes := List UInt8

namespace Octet

/-- Ends a line, and has no escape outside a quoted value. -/
abbrev newline : UInt8 := 0x0A

/-- Counts as a line break as well, so names may not hold it either. -/
abbrev carriageReturn : UInt8 := 0x0D

/-- Separates the series key, the fields and the time. -/
abbrev space : UInt8 := 0x20

/-- Opens and closes a string value. -/
abbrev quote : UInt8 := 0x22

/-- Separates tags from each other and fields from each other. -/
abbrev comma : UInt8 := 0x2C

/-- Separates a key from its value. -/
abbrev equals : UInt8 := 0x3D

/-- Takes its meaning away from the octet behind it. -/
abbrev backslash : UInt8 := 0x5C

end Octet

end SeriesWire
