import SeriesWire.Address.Resolve

/-! Failures of transports. -/
namespace SeriesWire

/-- Why a transport did not do what it was asked. -/
inductive IoError where
  /-- A recorder that was closed. -/
  | closed
  /-- A recorder made to fail at this attempt. -/
  | injected (attempt : Nat)
  /-- A connection that was closed on this side. -/
  | connectionClosed (peer : SocketAddress)
  /-- A connection that the peer has aborted. -/
  | connectionReset
  /-- A connection that is known to be gone. -/
  | brokenPipe
  | networkUnreachable
  /-- No address of this machine can be the other end. -/
  | addressNotAvailable
  | invalidArgument
  | unresolved (cause : ResolveError)
  /-- Any other failure, by its wording. -/
  | other (text : String)
deriving DecidableEq, Repr

def IoError.message : IoError → String
  | .closed => "closed"
  | .injected attempt => s!"injected failure on write {attempt}"
  | .connectionClosed peer => s!"connection to {peer.text} has been closed"
  | .connectionReset => "Connection reset by peer (os error 104)"
  | .brokenPipe => "Broken pipe (os error 32)"
  | .networkUnreachable => "Network is unreachable (os error 101)"
  | .addressNotAvailable => "Cannot assign requested address (os error 99)"
  | .invalidArgument => "Invalid argument (os error 22)"
  | .unresolved cause => cause.message
  | .other text => text

end SeriesWire
