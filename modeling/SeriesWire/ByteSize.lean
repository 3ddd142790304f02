import SeriesWire.Decimal.Reading
import SeriesWire.Text.Blank
import SeriesWire.Text.Letter
import SeriesWire.Text.LowerCase

/-! Numbers of octets as people write them: a number and a unit, such as `1KiB`. -/
namespace SeriesWire

inductive ByteSizeError where
  | empty
  | missingValue
  | invalidUnit
  | invalidValue
  | overflow
deriving DecidableEq, Repr

def ByteSizeError.message : ByteSizeError → String
  | .empty => "empty input"
  | .missingValue => "missing value"
  | .invalidUnit => "invalid unit"
  | .invalidValue => "invalid value"
  | .overflow => "value overflow"

namespace ByteSize

def most : Nat := UInt64.size - 1

/-- How many thousands a unit's letter multiplies. -/
def power? : Char → Option Nat
  | 'k' => some 1
  | 'm' => some 2
  | 'g' => some 3
  | 't' => some 4
  | 'p' => some 5
  | 'e' => some 6
  | _ => none

/-- The octets of a unit in lower case. A letter alone counts in powers of 1000, with
an `i` behind it in powers of 1024, and a final `b` changes nothing. -/
def factor? : List Char → Option Nat
  | [] | ['b'] => some 1
  | letter :: rest => do
    let power ← power? letter
    match rest with
    | [] | ['b'] => some (Nat.pow 1000 power)
    | ['i'] | ['i', 'b'] => some (Nat.pow 1024 power)
    | _ => none

def beginsUnit (c : Char) : Bool := Text.isBlank c || Text.letters.contains c

/-- The octets of the unit behind a number, in any case and with blanks around it.
Behind a number with a character outside ASCII, which has several octets, the place
counted for the unit is one where no unit stands. -/
def unitFactor? (number unit : List Char) : Option Nat :=
  if unit ≠ [] && number.any (127 < ·.toNat) then none
  else factor? (Text.lower (Text.trim unit))

/-- The number of octets that a text says. A bad unit is noticed before a bad number. -/
def parse (text : String) : Except ByteSizeError Nat := do
  let cs := Text.trim text.toList
  if cs.isEmpty then .error .empty
  let number := cs.takeWhile (!beginsUnit ·)
  if number.isEmpty then .error .missingValue
  let some factor := unitFactor? number (cs.dropWhile (!beginsUnit ·)) | .error .invalidUnit
  let .ok value := Decimal.read most number | .error .invalidValue
  if value * factor ≤ most then .ok (value * factor) else .error .overflow

end ByteSize

end SeriesWire
