import SeriesWire.Decimal.Digits
import SeriesWire.Decimal.Shortest

/-! The text of a float: its shortest decimal, positional where the point falls
near the digits and with an exponent elsewhere. A positional text has a digit on
both sides of its point. -/
namespace SeriesWire.Decimal

/-- A written number: the digits on both sides of the point, and the exponent if
one is written. Without digits behind it the point is left out. -/
structure Numeral where
  whole : List Char
  fraction : List Char
  exponent : Option Int
deriving DecidableEq

def Numeral.text (n : Numeral) : List Char :=
  n.whole ++ (if n.fraction.isEmpty then [] else '.' :: n.fraction) ++
    (match n.exponent with
    | none => []
    | some e => 'e' :: integer e)

/-- A positional text has its point at most so many places behind its beginning. -/
def widestPoint : Int := 16

/-- A positional text has its point behind this place, so that at most four zeros stand
between the point and the first digit. -/
def deepestPoint : Int := -5

/-- The form in which a decimal is written, with `point` the place of its point counted
from the beginning of its digits. A whole number gets a zero behind its point; where an
exponent is written, the point stands behind the first digit. -/
def Scaled.numeral (x : Scaled) : Numeral :=
  let digits := natural x.digits
  let point := digits.length + x.exponent
  if 0 ≤ x.exponent ∧ point ≤ widestPoint then
    ⟨digits ++ zeros x.exponent.toNat, ['0'], none⟩
  else if 0 < point ∧ point ≤ widestPoint then
    ⟨digits.take point.toNat, digits.drop point.toNat, none⟩
  else if deepestPoint < point ∧ point ≤ 0 then
    ⟨['0'], zeros (-point).toNat ++ digits, none⟩
  else ⟨digits.take 1, digits.drop 1, some (point - 1)⟩

def float (x : Binary64) : List Char :=
  let text := (shortest x.magnitude).numeral.text
  if x.negative then '-' :: text else text

end SeriesWire.Decimal
