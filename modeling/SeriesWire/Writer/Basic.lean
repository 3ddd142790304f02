import SeriesWire.Client.Error
import SeriesWire.Writer.Buffer

/-! The writer of batches. It gathers the lines of a batch into messages of a limited
size and hands them to its sink. A refused message does not keep the later ones back;
the error of the last one refused is the result. -/
namespace SeriesWire

/-- A sink and the most octets that a message should have. -/
structure Writer (σ : Type) where
  payloadSize : Nat
  sink : σ

/-- What a write did: its result, what was noted, all messages handed over, and the
writer and the batch after it. -/
structure WriteReport (σ α : Type) where
  result : Except ClientError Unit
  notices : List Notice
  deliveries : List Delivery
  writer : Writer σ
  batch : RecordBatch α

namespace Writer

variable {σ α : Type}

/-- A writer over a sink. A size of zero counts as one. Sizes that no memory holds are not
looked at: a machine has to set a buffer of that size aside before it writes. -/
def create (sink : σ) (payloadSize : Nat) : Writer σ := ⟨max payloadSize 1, sink⟩

/-- What is told of a write that ended with `error`, and left `records` in the batch. -/
def report (writer : Writer σ) (batch : RecordBatch α) (records : List α) :
    Option IoError × Sending σ → WriteReport σ α
  | (error, sending) =>
    { result := match error with
        | none => .ok ()
        | some cause => .error (.writeFailed cause)
      notices := sending.notices.reverse
      deliveries := sending.deliveries.reverse
      writer := { writer with sink := sending.sink }
      batch := { batch with records } }

variable [Sink σ] [LineRecord α]

/-- The buffer with the last records of a batch in it, and the records as they are then. -/
def fill (width : Width) (writer : Writer σ) (batch : RecordBatch α) : MessageBuffer σ × List α :=
  (MessageBuffer.start writer.payloadSize writer.sink).addAll width
    (Precision.unit? batch.precision) batch.records

/-- Sends all records of a batch in order. -/
def write (width : Width) (writer : Writer σ) (batch : RecordBatch α) : WriteReport σ α :=
  let (buffer, records) := writer.fill width batch
  writer.report batch records buffer.finish

end Writer

end SeriesWire
