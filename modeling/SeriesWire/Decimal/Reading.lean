import SeriesWire.Text.Digit

/-! Whole numbers read from decimal digits, with the first reason why a text is none. -/
namespace SeriesWire.Decimal

inductive NumberError where
  | empty
  | invalidDigit
  | tooLarge
deriving DecidableEq, Repr

def NumberError.message : NumberError → String
  | .empty => "cannot parse integer from empty string"
  | .invalidDigit => "invalid digit found in string"
  | .tooLarge => "number too large to fit in target type"

/-- One digit more; the value so far may not exceed `most`. -/
def readDigit (most value : Nat) (c : Char) : Except NumberError Nat :=
  if 10 ≤ Text.digitValue c then .error .invalidDigit
  else if most < value * 10 + Text.digitValue c then .error .tooLarge
  else .ok (value * 10 + Text.digitValue c)

/-- Digits from the left, until the first that is none or leads past `most`. -/
def readDigits (most : Nat) (cs : List Char) : Except NumberError Nat :=
  cs.foldlM (readDigit most) 0

/-- A number from 0 to `most`: digits, with leading zeros or not, after a plus sign
or without one. -/
def read (most : Nat) (cs : List Char) : Except NumberError Nat :=
  match cs with
  | [] => .error .empty
  | [c] => readDigits most [c]
  | c :: rest => if c = '+' then readDigits most rest else readDigits most cs

end SeriesWire.Decimal
