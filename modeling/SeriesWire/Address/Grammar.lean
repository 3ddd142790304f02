import SeriesWire.Address.Ip
import SeriesWire.Text.Digit

/-! Addresses and sockets read from their texts. A reader takes what it can from the
front and leaves the rest; numbers end where their digits do. -/
namespace SeriesWire.Address

/-- A reader: what it read and the characters behind, or that it does not apply. -/
abbrev Reader (α : Type) := List Char → Option (α × List Char)

def symbol (c : Char) : List Char → Option (List Char)
  | [] => none
  | x :: rest => if x = c then some rest else none

/-- All digits of a base at the front, and the rest. -/
def digits (base : Nat) (cs : List Char) : List Char × List Char :=
  (cs.takeWhile (Text.digitValue · < base), cs.dropWhile (Text.digitValue · < base))

/-- A decimal number up to `most`, with any number of leading zeros. -/
def decimal (most : Nat) : Reader Nat := fun cs =>
  let (ds, rest) := digits 10 cs
  if ds = [] then none else (Text.digitsWithin? 10 most ds).map (·, rest)

/-- A decimal number up to 255 in at most three digits, without leading zeros. -/
def octet : Reader UInt8 := fun cs =>
  let (ds, rest) := digits 10 cs
  if ds ≠ [] ∧ ds.length ≤ 3 ∧ (ds.head? = some '0' → ds.length = 1) then
    (Text.digitsWithin? 10 255 ds).map (UInt8.ofNat ·, rest)
  else none

/-- A hexadecimal number in at most four digits. -/
def group : Reader UInt16 := fun cs =>
  let (ds, rest) := digits 16 cs
  if ds ≠ [] ∧ ds.length ≤ 4 then
    (Text.digitsWithin? 16 0xFFFF ds).map (UInt16.ofNat ·, rest)
  else none

def ipv4 : Reader Ipv4Address := fun cs => do
  let (a, cs) ← octet cs
  let (b, cs) ← symbol '.' cs >>= octet
  let (c, cs) ← symbol '.' cs >>= octet
  let (d, cs) ← symbol '.' cs >>= octet
  some (⟨a, b, c, d⟩, cs)

/-- Whatever stands before a group: a colon, but nothing before the first one. -/
def separator (isFirst : Bool) (cs : List Char) : Option (List Char) :=
  if isFirst then some cs else symbol ':' cs

/-- Up to `room` groups with colons between them. Where two groups have room, four
octets may stand for them and end the list, which the answer tells. -/
def groups (isFirst : Bool) : Nat → List Char → (List UInt16 × Bool) × List Char
  | 0, cs => (([], false), cs)
  | room + 1, cs =>
    match if room = 0 then none else separator isFirst cs >>= ipv4 with
    | some (ip, rest) =>
      let high := ip.a.toUInt16 <<< 8 ||| ip.b.toUInt16
      let low := ip.c.toUInt16 <<< 8 ||| ip.d.toUInt16
      (([high, low], true), rest)
    | none =>
      match separator isFirst cs >>= group with
      | some (g, rest) =>
        let ((gs, endsInOctets), rest) := groups false room rest
        ((g :: gs, endsInOctets), rest)
      | none => (([], false), cs)

/-- Eight groups, or fewer with a double colon in place of all that are missing. The
double colon may not follow four octets, and at least one group is missing there. -/
def ipv6 : Reader Ipv6Address := fun cs => do
  let ((front, endsInOctets), cs) := groups true 8 cs
  if front.length = 8 then
    let ip ← Ipv6Address.ofGroups? front
    some (ip, cs)
  else if endsInOctets then none
  else
    let cs ← symbol ':' cs >>= symbol ':'
    let ((back, _), cs) := groups true (7 - front.length) cs
    let missing := 8 - front.length - back.length
    let ip ← Ipv6Address.ofGroups? (front ++ List.replicate missing 0 ++ back)
    some (ip, cs)

/-- A percent sign and the number of a scope, or nothing, which is scope 0. -/
def scope (cs : List Char) : Nat × List Char :=
  (symbol '%' cs >>= decimal 4294967295).getD (0, cs)

/-- A colon and the number of a port. -/
def port : Reader UInt16 := fun cs => do
  let (n, cs) ← symbol ':' cs >>= decimal 65535
  some (UInt16.ofNat n, cs)

def socketV4 : Reader SocketAddress := fun cs => do
  let (ip, cs) ← ipv4 cs
  let (n, cs) ← port cs
  some (.v4 ip n, cs)

def socketV6 : Reader SocketAddress := fun cs => do
  let (ip, cs) ← symbol '[' cs >>= ipv6
  let (scope, cs) := scope cs
  let (n, cs) ← symbol ']' cs >>= port
  some (.v6 ip n 0 (UInt32.ofNat scope), cs)

/-- What a reader makes of a whole text. -/
def whole {α : Type} (reader : Reader α) (cs : List Char) : Option α :=
  match reader cs with
  | some (x, []) => some x
  | _ => none

def ipv6? (cs : List Char) : Option Ipv6Address := whole ipv6 cs

/-- The socket that a text is: `a.b.c.d:port`, `[ip]:port` or `[ip%scope]:port`. -/
def socket? (cs : List Char) : Option SocketAddress :=
  whole (fun cs => (socketV4 cs).or (socketV6 cs)) cs

end SeriesWire.Address
