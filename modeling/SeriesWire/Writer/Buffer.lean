import SeriesWire.LineRecord
import SeriesWire.Writer.Sending

/-! The buffer of a write. Lines are gathered in it, and it is handed to the sink whenever
the next line would not fit, between records as well as between the parts of one. -/
namespace SeriesWire

/-- The message that is being filled, and what was done with the ones before it. -/
structure MessageBuffer (σ : Type) where
  /-- The most octets that a message should have. -/
  limit : Nat
  message : Array UInt8
  sending : Sending σ

namespace MessageBuffer

variable {σ α : Type}

def start (limit : Nat) (sink : σ) : MessageBuffer σ := ⟨limit, #[], .start sink⟩

/-- Puts a line and its line break behind the message. -/
def append [LineRecord α] : MessageBuffer σ → α → MessageBuffer σ
  | ⟨limit, message, sending⟩, record =>
    ⟨limit, (message ++ LineRecord.line record).push Octet.newline, sending⟩

def clear (buffer : MessageBuffer σ) : MessageBuffer σ := { buffer with message := #[] }

/-- What is left in the buffer, if anything is. -/
def rest? (buffer : MessageBuffer σ) : Option Bytes :=
  if buffer.message.isEmpty then none else some buffer.message.toList

variable [Sink σ]

/-- Hands the message over as one that others follow. -/
def flush (buffer : MessageBuffer σ) : MessageBuffer σ :=
  { buffer with sending := buffer.sending.flush buffer.message.toList }

/-- Makes room for `octets` more. A message that would grow past the limit is handed over, and
whether it was taken or refused, nothing of it stays. -/
def reserve (width : Width) (buffer : MessageBuffer σ) (octets : Nat) : MessageBuffer σ :=
  if !buffer.message.isEmpty && buffer.limit < width.add buffer.message.size octets then
    buffer.flush.clear
  else buffer

/-- Hands over what is left in the buffer, and tells the error of the write. -/
def finish (buffer : MessageBuffer σ) : Option IoError × Sending σ :=
  buffer.sending.finish buffer.rest?

variable [LineRecord α]

/-- Puts a part of a record where it fits. -/
def addPart (width : Width) (buffer : MessageBuffer σ) (part : α) : MessageBuffer σ :=
  (buffer.reserve width (LineRecord.octets width part)).append part

/-- Rounds a record and puts it where it fits, in parts if it is too large and has a time. One
octet of the limit is kept for the line break of each part. -/
def add (width : Width) (unit? : Option Duration) (buffer : MessageBuffer σ) (record : α) :
    MessageBuffer σ × α :=
  let record := LineRecord.roundTo unit? record
  let buffer := buffer.reserve width (LineRecord.octets width record)
  if LineRecord.isOversized width buffer.limit record then
    let (parts, record) := LineRecord.split (buffer.limit - 1) record
    (parts.foldl (addPart width) buffer, record)
  else (buffer.append record, record)

/-- Puts records into the buffer one after the other, and gives them as they are after that. -/
def addAll (width : Width) (unit? : Option Duration) (buffer : MessageBuffer σ) :
    List α → MessageBuffer σ × List α
  | [] => (buffer, [])
  | record :: records =>
    let (buffer, record) := buffer.add width unit? record
    let (buffer, records) := addAll width unit? buffer records
    (buffer, record :: records)

end MessageBuffer

end SeriesWire
