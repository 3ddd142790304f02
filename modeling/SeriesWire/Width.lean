/-! Sums of sizes. Sizes are numbers of octets, and a machine adds them as words. -/
namespace SeriesWire

/-- The numbers that sizes are added as: of any size, or words of so many bits. -/
inductive Width where
  | unbounded
  | bits (count : Nat)
deriving DecidableEq, Repr

namespace Width

/-- A sum that is too large for a word loses its highest bit. A program that checks its sums
ends there instead, and as long as it goes on it adds as if numbers were unbounded. -/
def add : Width → Nat → Nat → Nat
  | .unbounded, a, b => a + b
  | .bits count, a, b => (BitVec.ofNat count (a + b)).toNat

@[simp] theorem add_unbounded (a b : Nat) : unbounded.add a b = a + b := rfl

/-- Words of the machines that this is for. -/
def machine : Width := .bits 64

end Width

end SeriesWire
