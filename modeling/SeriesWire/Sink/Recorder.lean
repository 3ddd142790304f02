import SeriesWire.Sink.Basic

/-! A sink that keeps the messages it takes, and refuses some on purpose. -/
namespace SeriesWire

structure Recorder where
  /-- The attempts to refuse, counted from 0. -/
  failAt : List Nat
  /-- The attempts so far; after the end none counts. -/
  attempts : Nat
  /-- The messages taken, the newest first. -/
  taken : List Bytes
  isClosed : Bool
deriving DecidableEq

namespace Recorder

def failing (failAt : List Nat) : Recorder := ⟨failAt, 0, [], false⟩

def writes (r : Recorder) : List Bytes := r.taken.reverse

def send (message : Bytes) (r : Recorder) : Except IoError Unit × Recorder :=
  if r.isClosed then (.error .closed, r)
  else if r.attempts ∈ r.failAt then
    (.error (.injected r.attempts), { r with attempts := r.attempts + 1 })
  else (.ok (), { r with attempts := r.attempts + 1, taken := message :: r.taken })

def close (r : Recorder) : Closing IoError Recorder := ⟨.ok (), [], { r with isClosed := true }⟩

instance : Sink Recorder := ⟨send, close⟩

end Recorder

end SeriesWire
