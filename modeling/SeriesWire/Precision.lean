import SeriesWire.Duration

/-! Precision tags. The empty tag and unknown ones name no unit. -/
namespace SeriesWire.Precision

/-- The unit that a tag names. The micro sign and the Greek letter mean the same. -/
def unit? (tag : String) : Option Duration :=
  if tag = "ns" then some ⟨0, 1⟩
  else if tag = "us" ∨ tag = "\u00B5s" ∨ tag = "\u03BCs" then some ⟨0, 1000⟩
  else if tag = "ms" then some ⟨0, 1000000⟩
  else if tag = "s" then some ⟨1, 0⟩
  else if tag = "m" then some ⟨60, 0⟩
  else if tag = "h" then some ⟨3600, 0⟩
  else none

end SeriesWire.Precision
