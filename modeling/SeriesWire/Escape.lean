import SeriesWire.Text.Utf8

/-! Escaping. Outside quotes a backslash is set before every octet that would
separate; backslashes themselves stay single there. Inside quotes both the quote
and the backslash get one. Texts are also put behind a buffer in that form, one
octet at a time. -/
namespace SeriesWire.Escape

/-- The octets that separate in a measurement. -/
def measurementSpecials : Bytes := [Octet.comma, Octet.space]

/-- The octets that separate in a tag key, a tag value or a field key. -/
def tagSpecials : Bytes := [Octet.comma, Octet.equals, Octet.space]

/-- The octets that would end a quoted value or hide its end. -/
def quotedSpecials : Bytes := [Octet.quote, Octet.backslash]

/-- Sets a backslash before every octet of `specials`. -/
def escape (specials text : Bytes) : Bytes :=
  text.flatMap fun b => if b ∈ specials then [Octet.backslash, b] else [b]

def measurement (name : Bytes) : Bytes := escape measurementSpecials name

/-- The written form of a tag key, a tag value or a field key. -/
def tag (text : Bytes) : Bytes := escape tagSpecials text

def quoted (text : Bytes) : Bytes :=
  Octet.quote :: (escape quotedSpecials text ++ [Octet.quote])

def appendEscaped (specials : Bytes) (buffer : Array UInt8) (text : String) : Array UInt8 :=
  (Utf8.encode text).foldl
    (fun buffer b => (if b ∈ specials then buffer.push Octet.backslash else buffer).push b) buffer

def appendMeasurement : Array UInt8 → String → Array UInt8 := appendEscaped measurementSpecials

def appendTag : Array UInt8 → String → Array UInt8 := appendEscaped tagSpecials

def appendQuoted (buffer : Array UInt8) (text : String) : Array UInt8 :=
  (appendEscaped quotedSpecials (buffer.push Octet.quote) text).push Octet.quote

end SeriesWire.Escape
