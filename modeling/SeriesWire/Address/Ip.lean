import SeriesWire.Decimal.Digits

/-! Internet addresses, the sockets at them, and their texts. -/
namespace SeriesWire

structure Ipv4Address where
  a : UInt8
  b : UInt8
  c : UInt8
  d : UInt8
deriving DecidableEq, Repr

/-- An address of eight groups of 16 bits. -/
structure Ipv6Address where
  groups : List UInt16
  eight : groups.length = 8
deriving DecidableEq, Repr

inductive IpAddress where
  | v4 (ip : Ipv4Address)
  | v6 (ip : Ipv6Address)
deriving DecidableEq, Repr

/-- A socket; the later version adds what tells apart equal addresses on different links. -/
inductive SocketAddress where
  | v4 (ip : Ipv4Address) (port : UInt16)
  | v6 (ip : Ipv6Address) (port : UInt16) (flowInfo scope : UInt32)
deriving DecidableEq, Repr

namespace Ipv4Address

def text (ip : Ipv4Address) : List Char :=
  ['.'].intercalate ([ip.a, ip.b, ip.c, ip.d].map fun octet => Decimal.natural octet.toNat)

end Ipv4Address

namespace Ipv6Address

def ofGroups? (groups : List UInt16) : Option Ipv6Address :=
  if h : groups.length = 8 then some ⟨groups, h⟩ else none

/-- The group that tells the kind of an address. -/
def firstGroup (ip : Ipv6Address) : UInt16 := ip.groups.headD 0

/-- Addresses of one link, which each link can have. -/
def isLinkLocal (ip : Ipv6Address) : Bool := ip.firstGroup &&& 0xFFC0 == 0xFE80

/-- Addresses of groups of receivers. -/
def isMulticast (ip : Ipv6Address) : Bool := ip.firstGroup &&& 0xFF00 == 0xFF00

/-- How far a message to a group of receivers goes: 1 is the interface, 2 the link. -/
def multicastScope (ip : Ipv6Address) : UInt16 := ip.firstGroup &&& 0xF

/-- The number of zero groups from `index` on. -/
def zerosAt (groups : List UInt16) (index : Nat) : Nat :=
  ((groups.drop index).takeWhile (· == 0)).length

/-- Where the longest run of zero groups begins, the first of equally long ones, and
its length. -/
def longestZeros (groups : List UInt16) : Nat × Nat :=
  (List.range groups.length).foldl (fun (start, length) index =>
    if length < zerosAt groups index then (index, zerosAt groups index) else (start, length))
    (0, 0)

/-- Groups in hexadecimal digits with colons between them. -/
def groupsText (groups : List UInt16) : List Char :=
  [':'].intercalate (groups.map fun group => Nat.toDigits 16 group.toNat)

/-- The address of four octets that some groups hold, if the groups map one. -/
def mapped? : List UInt16 → Option Ipv4Address
  | [0, 0, 0, 0, 0, 0xFFFF, high, low] =>
    some ⟨(high >>> 8).toUInt8, high.toUInt8, (low >>> 8).toUInt8, low.toUInt8⟩
  | _ => none

/-- The text of an address: a mapped address ends in its four octets, and the longest
run of two or more zero groups is left out. -/
def text (ip : Ipv6Address) : List Char :=
  match mapped? ip.groups with
  | some inner => "::ffff:".toList ++ inner.text
  | none =>
    let (start, length) := longestZeros ip.groups
    if length < 2 then groupsText ip.groups
    else groupsText (ip.groups.take start) ++ [':', ':'] ++
      groupsText (ip.groups.drop (start + length))

end Ipv6Address

def IpAddress.text : IpAddress → String
  | .v4 ip => String.ofList ip.text
  | .v6 ip => String.ofList ip.text

namespace SocketAddress

def ip : SocketAddress → IpAddress
  | .v4 ip _ => .v4 ip
  | .v6 ip _ _ _ => .v6 ip

def port : SocketAddress → UInt16
  | .v4 _ port => port
  | .v6 _ port _ _ => port

/-- The socket at an address, with neither flow nor scope. -/
def ofIp (port : UInt16) : IpAddress → SocketAddress
  | .v4 ip => .v4 ip port
  | .v6 ip => .v6 ip port 0 0

/-- The text of a socket. A scope is shown unless it is zero; the flow is never shown. -/
def text : SocketAddress → String
  | .v4 ip port => String.ofList (ip.text ++ ':' :: Decimal.natural port.toNat)
  | .v6 ip port _ scope =>
    let zone := if scope = 0 then [] else '%' :: Decimal.natural scope.toNat
    String.ofList ('[' :: ip.text ++ zone ++ [']', ':'] ++ Decimal.natural port.toNat)

end SocketAddress

end SeriesWire
