import SeriesWire.Sink.Basic

/-! A sink over a stream connection to a peer. -/
namespace SeriesWire

inductive Link where
  /-- Everything sent reaches the peer. -/
  | established
  /-- The peer has aborted, and this side has not noticed yet. -/
  | aborted
  /-- This side knows that the connection is gone. -/
  | broken
  /-- This side has let go of the connection. -/
  | released
deriving DecidableEq, Repr

structure Stream where
  peer : SocketAddress
  link : Link
  /-- The messages that the peer was sent, the newest first. -/
  taken : List Bytes
deriving DecidableEq

namespace Stream

def connect (peer : SocketAddress) : Stream := ⟨peer, .established, []⟩

/-- All octets that the peer was sent, in order. -/
def sent (s : Stream) : Bytes := s.taken.reverse.flatten

def abort (s : Stream) : Stream :=
  match s.link with
  | .established => { s with link := .aborted }
  | _ => s

def send (message : Bytes) (s : Stream) : Except IoError Unit × Stream :=
  match s.link with
  | .established => (.ok (), { s with taken := message :: s.taken })
  | .aborted => (.error .connectionReset, { s with link := .broken })
  | .broken => (.error .brokenPipe, s)
  | .released => (.error (.connectionClosed s.peer), s)

/-- Lets go of the connection. That the peer may have gone first is no failure, and
doing it again does nothing. -/
def close (s : Stream) : Closing IoError Stream :=
  match s.link with
  | .released => ⟨.ok (), [], s⟩
  | _ => ⟨.ok (), [.closingConnection s.peer], { s with link := .released }⟩

instance : Sink Stream := ⟨send, close⟩

end Stream

end SeriesWire
