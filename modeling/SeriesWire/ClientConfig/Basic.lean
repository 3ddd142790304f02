import SeriesWire.Client.Basic
import SeriesWire.Sink.Stream

/-! Where a client connects to and how large its messages are, and the client made so. -/
namespace SeriesWire

structure ClientConfig where
  /-- The address as `host:port` or `[ip%zone]:port`. -/
  address : String
  payloadSize : Nat
deriving DecidableEq, Repr

/-- The sockets of a list tried in order, until one can be reached; else the last failure. -/
def firstReachable (dial : SocketAddress → Except IoError Unit) :
    List SocketAddress → Except IoError SocketAddress
  | [] => .error (.other "could not resolve to any addresses")
  | [socket] => (dial socket).map fun _ => socket
  | socket :: sockets =>
    match dial socket with
    | .ok _ => .ok socket
    | .error _ => firstReachable dial sockets

namespace ClientConfig

/-- The size of messages that suits packets on their way through the internet. -/
def defaultPayloadSize : Nat := 512

def create (address : String) : ClientConfig := ⟨address, defaultPayloadSize⟩

def setAddress (config : ClientConfig) (address : String) : ClientConfig := { config with address }

/-- Sets the most octets of a message; zero means the default. Nothing bounds the size, so one
that no memory holds is found out by the first write only. -/
def setPayloadSize (config : ClientConfig) (size : Nat) : ClientConfig :=
  { config with payloadSize := if size = 0 then defaultPayloadSize else size }

/-- A client connected to the address, and what is noted. `dial` tells which sockets
can be reached. -/
def build (host : Host) (dial : SocketAddress → Except IoError Unit) (config : ClientConfig) :
    Except ClientError (Client Stream × List Notice) := do
  let sockets ← (Address.resolve host config.address).mapError fun cause =>
    .resolveFailed config.address (.unresolved cause)
  if sockets.isEmpty then .error (.noAddressResolved config.address)
  let peer ← (firstReachable dial sockets).mapError (.connectFailed config.address)
  .ok (⟨peer, Writer.create (Stream.connect peer) config.payloadSize⟩, [.connected peer])

end ClientConfig

end SeriesWire
