import SeriesWire.Binary64

/-! The shortest decimal that reads back as a given binary64 magnitude. The grids
of the multiples of a power of ten are tried from coarse to fine. If any multiple
reads back, so does one of the two next to the magnitude, so only these are tried;
on the first grid with a hit no decimal has fewer digits. On the grid of 10^-1074
the magnitude lies itself. -/
namespace SeriesWire.Decimal

structure Scaled where
  digits : Nat
  exponent : Int
deriving DecidableEq, Repr

/-- The multiple of 10^`grid` next to `value` that reads back as `magnitude`, in
multiples: of two the nearer one, and of two equally near the even one. Values
are counted in units of 10^-1074. It is opened by name only, as these values are too large
to be computed along the way. -/
@[irreducible] def onGrid (magnitude value grid : Nat) : Option Nat :=
  let step := Nat.pow 10 grid
  let below := value / step
  let above := below + 1
  let rest := value % step
  match Binary64.nearest (below * step) == magnitude,
      Binary64.nearest (above * step) == magnitude with
  | true, true =>
    if 2 * rest < step then some below
    else if step < 2 * rest then some above
    else some (below + below % 2)
  | true, false => some below
  | false, true => some above
  | false, false => none

/-- The first hit on the grids from 10^`grid` down, with its grid. -/
def search (magnitude value : Nat) : (grid : Nat) → Nat × Nat
  | 0 => (value, 0)
  | grid + 1 =>
    match onGrid magnitude value (grid + 1) with
    | some digits => (digits, grid + 1)
    | none => search magnitude value grid

/-- A grid too coarse for `value`: its step is larger, as 2^13 is less than 10^4. -/
def coarsest (value : Nat) : Nat := (Nat.log2 value + 1) * 4 / 13 + 1

/-- The decimal with the fewest digits that reads back as a finite magnitude, of
these the nearest to it, and of two the one with an even last digit. -/
def shortest (magnitude : Nat) : Scaled :=
  if magnitude = 0 then ⟨0, 0⟩
  else
    let value := Binary64.decimalUnits magnitude
    let found := search magnitude value (coarsest value)
    ⟨found.1, found.2 - 1074⟩

end SeriesWire.Decimal
