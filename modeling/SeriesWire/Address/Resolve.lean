import SeriesWire.Address.HostName
import SeriesWire.Address.Numeric
import SeriesWire.Decimal.Reading

/-! Sockets from the texts `host:port`, `ip:port` and `[ip%zone]:port`. A zone is a
number or the name of an interface. -/
namespace SeriesWire

/-- What a machine knows about names. -/
structure Host where
  /-- The number of a network interface. -/
  interfaceIndex : String → Option UInt32
  /-- The addresses of a host name that is not itself an address; nothing where
  nobody can be asked. -/
  addresses : String → Option (List IpAddress)

/-- Whether a text names an interface: its name, or an alias of it behind a colon. Such
texts have at most 15 octets. -/
def namesInterface (interface : List Char) (text : String) : Bool :=
  text.toList.takeWhile (· ≠ ':') = interface && text.utf8ByteSize ≤ 15

/-- A machine with its loopback interface alone, which reaches no other host. -/
def Host.isolated : Host where
  interfaceIndex name := if namesInterface ['l', 'o'] name then some 1 else none
  addresses name := if name.toLower = "localhost" then some [.v4 ⟨127, 0, 0, 1⟩] else none

inductive ResolveError where
  | invalidIpv6 (text : String)
  | invalidPort (text : String) (cause : Decimal.NumberError)
  | unknownInterface
  | nulInZone
  | noPort
  | badPort
  | nulInHost
  | invalidHost
  | unreachedHost
deriving DecidableEq, Repr

def ResolveError.message : ResolveError → String
  | .invalidIpv6 text => s!"invalid ipv6 address {text}: invalid IPv6 address syntax"
  | .invalidPort text cause => s!"invalid port {text}: {cause.message}"
  | .unknownInterface => "No such device (os error 19)"
  | .nulInZone => "data provided contains a nul byte"
  | .noPort => "invalid socket address"
  | .badPort => "invalid port value"
  | .nulInHost => "file name contained an unexpected NUL byte"
  | .invalidHost => "failed to lookup address information: Name or service not known"
  | .unreachedHost =>
    "failed to lookup address information: Temporary failure in name resolution"

namespace Address

/-- The parts of `[ip%zone]:port`. -/
def zonedParts? (cs : List Char) : Option (List Char × List Char × List Char) := do
  let inner ← symbol '[' cs
  let (host, port) ← Text.cut [']', ':'] inner
  let (ip, zone) ← Text.cut ['%'] host
  some (ip, zone, port)

def zoneScope (host : Host) (zone : List Char) : Except ResolveError UInt32 :=
  match Decimal.read 4294967295 zone with
  | .ok n => .ok (UInt32.ofNat n)
  | .error _ =>
    if '\x00' ∈ zone then .error .nulInZone
    else match host.interfaceIndex (String.ofList zone) with
      | some n => .ok n
      | none => .error .unknownInterface

/-- The socket that the parts of `[ip%zone]:port` name. -/
def resolveZoned (host : Host) (ip zone port : List Char) : Except ResolveError SocketAddress := do
  let some address := ipv6? ip | .error (.invalidIpv6 (String.ofList ip))
  let number ← (Decimal.read 65535 port).mapError (.invalidPort (String.ofList port))
  let scope ← zoneScope host zone
  .ok (.v6 address (UInt16.ofNat number) 0 scope)

/-- The sockets at a port of a host, which is an address in a looser form or a name.
An address with a zone that says no scope is not a name either. -/
def resolveHost (host : Host) (name : List Char) (port : UInt16) :
    Except ResolveError (List SocketAddress) :=
  if '\x00' ∈ name then .error .nulInHost
  else match looseIpv4? name with
    | some ip => .ok [.v4 ip port]
    | none =>
      match looseIpv6? name with
      | some (ip, zone) =>
        match scopeNumber? host.interfaceIndex ip zone with
        | some scope => .ok [.v6 ip port 0 scope]
        | none => .error .invalidHost
      | none =>
        if !isHostName name then .error .invalidHost
        else match host.addresses (String.ofList name) with
          | some ips => .ok (ips.map (SocketAddress.ofIp port))
          | none => .error .unreachedHost

/-- The sockets of `host:port`, where the host is the part before the last colon. -/
def resolveNamed (host : Host) (cs : List Char) : Except ResolveError (List SocketAddress) :=
  match Text.cutLast ':' cs with
  | none => .error .noPort
  | some (name, port) =>
    match Decimal.read 65535 port with
    | .error _ => .error .badPort
    | .ok number => resolveHost host name (UInt16.ofNat number)

/-- The sockets that a text names. Only a text in brackets with a zone is taken apart
here; all others are sockets as they stand, or a host and a port. -/
def resolve (host : Host) (text : String) : Except ResolveError (List SocketAddress) :=
  match zonedParts? text.toList with
  | some (ip, zone, port) => (resolveZoned host ip zone port).map ([·])
  | none =>
    match socket? text.toList with
    | some socket => .ok [socket]
    | none => resolveNamed host text.toList

end Address

end SeriesWire
