import SeriesWire.IoError

/-! What is told to the log. -/
namespace SeriesWire

inductive Notice.Level where
  | debug
  | warn
deriving DecidableEq, Repr

def Notice.Level.name : Notice.Level → String
  | .debug => "DEBUG"
  | .warn => "WARN"

inductive Notice where
  /-- A message of so many octets was refused, and the writer goes on. -/
  | sendFailed (octets : Nat) (cause : IoError)
  | connected (peer : SocketAddress)
  | closingClient (peer : SocketAddress)
  | closingConnection (peer : SocketAddress)
deriving DecidableEq, Repr

namespace Notice

def level : Notice → Level
  | .sendFailed .. => .warn
  | .connected _ | .closingClient _ | .closingConnection _ => .debug

def text : Notice → String
  | .sendFailed octets cause =>
    s!"failed to send {octets} bytes of line protocol data: {cause.message}"
  | .connected peer => s!"influxdb tcp client connected to {peer.text}"
  | .closingClient peer => s!"closing influxdb tcp client for {peer.text}"
  | .closingConnection peer => s!"closing influxdb tcp connection to {peer.text}"

end Notice

end SeriesWire
