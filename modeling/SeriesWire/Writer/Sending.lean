import SeriesWire.Sink.Basic

/-! A write under way. Messages are handed to the sink one after the other; a refused
one is noted and its error kept, and the next one is handed over all the same. -/
namespace SeriesWire

/-- A message that was handed over, and why it was refused if it was. -/
structure Delivery where
  message : Bytes
  refusal : Option IoError
deriving DecidableEq

/-- What has been done so far. The newest notices and deliveries stand first. -/
structure Sending (σ : Type) where
  sink : σ
  /-- The error to report at the end, unless a later one takes its place. -/
  delayed : Option IoError
  notices : List Notice
  deliveries : List Delivery

namespace Sending

variable {σ : Type}

def start (sink : σ) : Sending σ := ⟨sink, none, [], []⟩

variable [Sink σ]

/-- Hands a message over: why it was refused if it was, and what has been done then. -/
def handOver (sending : Sending σ) (message : Bytes) : Option IoError × Sending σ :=
  let (result, sink) := Sink.send message sending.sink
  let refusal := match result with
    | .ok _ => none
    | .error cause => some cause
  (refusal, { sending with sink, deliveries := ⟨message, refusal⟩ :: sending.deliveries })

/-- Hands over a message that others follow. A refusal is noted, and its error kept. -/
def flush (sending : Sending σ) (message : Bytes) : Sending σ :=
  match sending.handOver message with
  | (none, sending) => sending
  | (some cause, sending) => { sending with
      delayed := some cause
      notices := .sendFailed message.length cause :: sending.notices }

/-- Hands over the last message, if there is one, and tells the error of the write. That
of the last message goes before the one kept, and is not noted. -/
def finish (sending : Sending σ) (last? : Option Bytes) : Option IoError × Sending σ :=
  match last? with
  | none => (sending.delayed, sending)
  | some message =>
    let (refusal, sending) := sending.handOver message
    (refusal.or sending.delayed, sending)

end Sending

end SeriesWire
