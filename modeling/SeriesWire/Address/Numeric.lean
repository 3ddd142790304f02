import SeriesWire.Address.Grammar
import SeriesWire.Text.Cut

/-! Addresses in the looser forms that a host name may have: one to four numbers for
four octets, where the last number fills all octets that are left, and eight groups
with a zone behind them. -/
namespace SeriesWire.Address

/-- A number of 32 bits: in base 16 behind `0x`, in base 8 behind another zero, else in
base 10. -/
def anyBase? (cs : List Char) : Option Nat :=
  let read (base : Nat) (ds : List Char) : Option Nat :=
    if ds ≠ [] ∧ ds.all (Text.digitValue · < base) then Text.digitsWithin? base 0xFFFFFFFF ds
    else none
  match cs with
  | '0' :: 'x' :: ds => read 16 ds
  | '0' :: 'X' :: ds => read 16 ds
  | '0' :: ds => read 8 ('0' :: ds)
  | ds => read 10 ds

/-- The 32 bits of some numbers: each but the last is one octet, the last is the rest. -/
def packOctets (room : Nat) : List Nat → Option Nat
  | [] => none
  | [last] => if last < room then some last else none
  | n :: ns => if n < 256 then (packOctets (room / 256) ns).map (n * (room / 256) + ·) else none

def ipv4OfBits (bits : Nat) : Ipv4Address :=
  ⟨UInt8.ofNat (bits >>> 24), UInt8.ofNat (bits >>> 16), UInt8.ofNat (bits >>> 8),
    UInt8.ofNat bits⟩

def looseIpv4? (cs : List Char) : Option Ipv4Address := do
  let numbers ← (cs.splitOn '.').mapM anyBase?
  if 4 < numbers.length then none
  let bits ← packOctets UInt32.size numbers
  some (ipv4OfBits bits)

/-- Addresses whose meaning depends on an interface: those of one link, and the
multicast ones of one interface or of one link. -/
def isInterfaceLocal (ip : Ipv6Address) : Bool :=
  ip.isLinkLocal ||
    ip.isMulticast && (ip.multicastScope == 1 || ip.multicastScope == 2)

/-- The number of a zone: of an interface, for an address that depends on one, or the
number that stands there. -/
def zoneNumber? (interfaceIndex : String → Option UInt32) (ip : Ipv6Address)
    (zone : List Char) : Option UInt32 :=
  let named := if isInterfaceLocal ip then interfaceIndex (String.ofList zone) else none
  named.or ((whole (decimal 4294967295) zone).map UInt32.ofNat)

/-- Eight groups, with a percent sign and a zone behind them or not. -/
def looseIpv6? (cs : List Char) : Option (Ipv6Address × Option (List Char)) :=
  match Text.cut ['%'] cs with
  | none => (ipv6? cs).map (·, none)
  | some (text, zone) => (ipv6? text).map (·, some zone)

/-- The scope of an address with a zone or without one, which is scope 0. -/
def scopeNumber? (interfaceIndex : String → Option UInt32) (ip : Ipv6Address) :
    Option (List Char) → Option UInt32
  | none => some 0
  | some zone => zoneNumber? interfaceIndex ip zone

end SeriesWire.Address
