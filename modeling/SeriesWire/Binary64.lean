/-! Floating point numbers by their bits. A finite magnitude is a whole number of
units of 2^-1074, and every such number is also a whole number of units of
10^-1074, so that all comparisons with decimals are exact in `Nat`. -/
namespace SeriesWire

/-- A binary64 number. Two of them are equal when their bits are, so the two zeros
differ. -/
structure Binary64 where
  bits : UInt64
deriving DecidableEq, Repr

namespace Binary64

def negative (x : Binary64) : Bool := 1 <<< 63 ≤ x.bits.toNat

def magnitude (x : Binary64) : Nat := x.bits.toNat % (1 <<< 63)

/-- The magnitude of the infinities; what lies above it is no number. -/
def infinity : Nat := 0x7FF <<< 52

def isFinite (x : Binary64) : Bool := x.magnitude < infinity

/-- How often the gap between neighbours doubled from its least size up to `magnitude`. -/
def doublings (magnitude : Nat) : Nat := magnitude >>> 52 - 1

/-- A finite magnitude in units of 2^-1074. -/
def units (magnitude : Nat) : Nat :=
  (magnitude - doublings magnitude <<< 52) <<< doublings magnitude

/-- The powers of five that lead from units of 2^-1074 to units of 10^-1074. -/
def scale : Nat := Nat.pow 5 1074

/-- A finite magnitude in units of 10^-1074. -/
def decimalUnits (magnitude : Nat) : Nat := units magnitude * scale

/-- The whole number nearest to `n / d`, the even one of two. -/
def roundHalfEven (n d : Nat) : Nat :=
  let below := n / d
  let rest := n % d
  if 2 * rest < d then below
  else if d < 2 * rest then below + 1
  else below + below % 2

/-- The magnitude nearest to `n / d` units of 2^-1074, the even one of two, and at
least `infinity` if none is finite. A significand that rounds up to the next power
of two carries into the exponent. -/
def nearestUnits (n d : Nat) : Nat :=
  let doublings := Nat.log2 (n / d) - 52
  doublings <<< 52 + roundHalfEven n (d <<< doublings)

def nearest (n : Nat) : Nat := nearestUnits n scale

/-- The binary64 number with the value of a binary32 number, given by its bits. -/
def ofBinary32 (bits : UInt32) : Binary64 :=
  let sign := bits.toNat >>> 31 <<< 63
  let narrow := bits.toNat % (1 <<< 31)
  let narrowInfinity := 0xFF <<< 23
  if narrow < narrowInfinity then
    let doublings := narrow >>> 23 - 1
    let units := (narrow - doublings <<< 23) <<< doublings
    ⟨UInt64.ofNat (sign + nearestUnits (units <<< 925) 1)⟩
  else ⟨UInt64.ofNat (sign + infinity + (narrow - narrowInfinity) <<< 29)⟩

end Binary64

end SeriesWire
