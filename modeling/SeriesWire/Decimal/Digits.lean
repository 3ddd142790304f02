/-! Whole numbers in decimal digits. -/
namespace SeriesWire.Decimal

def natural (n : Nat) : List Char := Nat.toDigits 10 n

/-- The digits of `|i|`, after a minus sign if `i` is negative. -/
def integer (i : Int) : List Char :=
  if i < 0 then '-' :: natural i.natAbs else natural i.natAbs

def zeros (n : Nat) : List Char := List.replicate n '0'

end SeriesWire.Decimal
