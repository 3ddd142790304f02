/-! Lower case, as far as names in ASCII can tell. Apart from the capitals of ASCII only
the Kelvin sign and the capital I with a dot have ASCII in their lower case, so leaving
all other characters alone changes no comparison with an ASCII name. -/
namespace SeriesWire.Text

/-- The lower case of a character, where it has ASCII in it; else the character. -/
def lowerChar (c : Char) : List Char :=
  if c = '\u212A' then ['k']
  else if c = '\u0130' then ['i', '\u0307']
  else [c.toLower]

/-- The lower case of a text, for comparison with names in ASCII. -/
def lower (cs : List Char) : List Char := cs.flatMap lowerChar

end SeriesWire.Text
