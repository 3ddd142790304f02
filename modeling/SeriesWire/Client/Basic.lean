import SeriesWire.Client.Query
import SeriesWire.Writer.Basic

/-! A client over one connection, which can only write. -/
namespace SeriesWire

/-- A writer and the peer that it writes to. -/
structure Client (σ : Type) where
  peer : SocketAddress
  writer : Writer σ

/-- What a ping tells: the time that the way to the server and back takes, and the
version of the server. -/
structure Pong where
  roundTrip : Duration
  version : String
deriving DecidableEq, Repr

namespace Client

variable {σ : Type}

def payloadSize (client : Client σ) : Nat := client.writer.payloadSize

def withWriter (client : Client σ) (writer : Writer σ) : Client σ := { client with writer }

/-- Nothing comes back over the connection, so no query has an answer. -/
def query (_ : Client σ) (_ : Query) : Except ClientError Response := .error .queryNotSupported

/-- An answer in pieces does not come back either. -/
def queryChunked (_ : Client σ) (_ : Query) : Except ClientError ChunkedResponse :=
  .error .queryNotSupported

/-- Nothing is sent; the way takes no time and the server does not say its version. -/
def ping (_ : Client σ) (_timeout : Duration) : Except ClientError Pong := .ok ⟨.zero, ""⟩

variable [Sink σ]

def write {α : Type} [LineRecord α] (client : Client σ) (batch : RecordBatch α) :
    WriteReport σ α :=
  client.writer.write .machine batch

/-- Lets go of the connection. -/
def close (client : Client σ) : Closing ClientError (Client σ) :=
  let closing := Sink.close client.writer.sink
  { result := closing.result.mapError .closeFailed
    notices := .closingClient client.peer :: closing.notices
    state := client.withWriter { client.writer with sink := closing.state } }

end Client

end SeriesWire
