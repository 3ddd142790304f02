import SeriesWire.Text.Digit

/-! Names of hosts: labels with points between them, of letters, digits, dashes and
underscores of ASCII. A backslash stands before a character to be taken as it is, or
before the three digits of its number, so that only a bare point divides. -/
namespace SeriesWire.Address

/-- The characters of a name, where `none` is a point that divides. Nothing is the
answer where a backslash has digits behind it that are not three. -/
def nameSigns : List Char → Option (List (Option Char))
  | [] => some []
  | '.' :: cs => (nameSigns cs).map (none :: ·)
  | '\\' :: a :: cs =>
    if !a.isDigit then (nameSigns cs).map (some a :: ·)
    else
      match cs with
      | b :: c :: cs =>
        if b.isDigit && c.isDigit then
          (nameSigns cs).map (some (Char.ofNat (Text.digitsValue 10 [a, b, c])) :: ·)
        else none
      | _ => none
  | ['\\'] => none
  | c :: cs => (nameSigns cs).map (some c :: ·)

def isNameSign : Option Char → Bool
  | none => false
  | some c => c.isAlphanum || c == '-' || c == '_'

def isLabel (label : List (Option Char)) : Bool :=
  0 < label.length && label.length ≤ 63 && label.all isNameSign

/-- The octets of some labels in a message: a length before each, and one to end them. -/
def labelsSize (labels : List (List (Option Char))) : Nat :=
  labels.flatten.length + labels.length + 1

/-- Whether a text can be the name of a host. A point may end it, and stands alone for
the root of all names. No name begins with a dash or takes more than 255 octets. -/
def isHostName (cs : List Char) : Bool :=
  match nameSigns cs with
  | none => false
  | some [none] => true
  | some signs =>
    let divided := signs.splitOn none
    let labels := if divided.getLast? = some [] then divided.dropLast else divided
    labels ≠ [] && labels.all isLabel && labelsSize labels ≤ 255 &&
      signs.head? ≠ some (some '-')

end SeriesWire.Address
