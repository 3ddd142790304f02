import SeriesWire.Client.Basic
import SeriesWire.Proofs.Sink.Recorder
import SeriesWire.Proofs.Writer.Isolation

/-! Sessions: everything that a caller does with one client, in any order and number. Batches
that were written are kept as the write left them and can be written again. Every call leaves
one event, which keeps what its caller was told and which messages it handed over. -/
namespace SeriesWire

/-- A batch of records of some kind. -/
structure AnyBatch : Type 1 where
  kind : Type
  [lines : LineRecord kind]
  batch : RecordBatch kind

attribute [instance] AnyBatch.lines

inductive Call : Type 1 where
  /-- Writes a batch that was not written before. -/
  | write (batch : AnyBatch)
  /-- Writes a batch again that was written before, as it is now. -/
  | rewrite (index : Nat)
  | query (query : Query)
  | queryChunked (query : Query)
  | ping (timeout : Duration)
  | close

namespace Call

def isClose : Call → Bool
  | .close => true
  | _ => false

/-- Calls that are answered without the connection. -/
def isIdle : Call → Bool
  | .query _ | .queryChunked _ | .ping _ => true
  | _ => false

end Call

/-- What a call has come to. A batch is told as it was before it was written. -/
inductive Event : Type 1 where
  | wrote (batch : AnyBatch) (result : Except ClientError Unit) (deliveries : List Delivery)
  /-- There was no such batch to write again. -/
  | notFound
  | answered (result : Except ClientError Response)
  | answeredInChunks (result : Except ClientError ChunkedResponse)
  | ponged (result : Except ClientError Pong)
  | closed (result : Except ClientError Unit)

namespace Event

/-- The messages that were handed over in a call. -/
def messages : Event → List Bytes
  | .wrote _ _ deliveries => deliveries.map (·.message)
  | _ => []

def isClose : Event → Bool
  | .closed _ => true
  | _ => false

/-- Events of calls that are answered without the connection. -/
def IsIdle : Event → Prop
  | .answered result => result = .error .queryNotSupported
  | .answeredInChunks result => result = .error .queryNotSupported
  | .ponged result => result = .ok ⟨.zero, ""⟩
  | .notFound => True
  | .wrote .. | .closed _ => False

/-- An event is what some call has to leave after which these batches were written: it is of the
kind of the call, and of a write it tells the batch that was to be written. -/
def Answers (batches : List AnyBatch) : Event → Call → Prop
  | .wrote written _ _, .write batch => written = batch
  | .wrote written _ _, .rewrite index => batches[index]? = some written
  | .notFound, .rewrite index => batches[index]? = none
  | .answered _, .query _ | .answeredInChunks _, .queryChunked _ => True
  | .ponged _, .ping _ | .closed _, .close => True
  | _, _ => False

theorem silent_of_isIdle {event : Event} (idle : event.IsIdle) :
    event.messages = [] ∧ event.isClose = false := by
  cases event with
  | answered | answeredInChunks | ponged | notFound => exact ⟨rfl, rfl⟩
  | wrote | closed => cases idle

/-- All messages that were handed over before the first close. -/
def counted (events : List Event) : List Bytes :=
  (events.takeWhile fun event => !event.isClose).flatMap messages

def anyClose (events : List Event) : Bool := events.any isClose

theorem counted_concat {event : Event} (silent : event.isClose = true → event.messages = [])
    (events : List Event) :
    counted (events ++ [event]) =
      counted events ++ if anyClose events then [] else event.messages := by
  induction events with
  | nil =>
    cases closes : event.isClose with
    | false => simp [counted, anyClose, closes]
    | true => simp [counted, anyClose, closes, silent closes]
  | cons first events ih =>
    cases closes : first.isClose with
    | false => simpa [counted, anyClose, closes] using ih
    | true => simp [counted, anyClose, closes]

theorem counted_concat_of_silent {event : Event} (silent : event.messages = [])
    (events : List Event) : counted (events ++ [event]) = counted events := by
  rw [counted_concat (fun _ => silent), silent, ite_self, List.append_nil]

theorem anyClose_concat (events : List Event) (event : Event) :
    anyClose (events ++ [event]) = (anyClose events || event.isClose) := by
  simp [anyClose]

end Event

/-- A client in use. -/
structure Session (σ : Type) : Type 1 where
  client : Client σ
  /-- The batches that were written, each as its last write left it. -/
  batches : List AnyBatch
  /-- What the calls have come to, in order. -/
  events : List Event

namespace Session

variable {σ : Type}

def start (client : Client σ) : Session σ := ⟨client, [], []⟩

def sink (session : Session σ) : σ := session.client.writer.sink

/-- A call that leaves the client as it is. -/
def told (session : Session σ) (event : Event) : Session σ :=
  { session with events := session.events ++ [event] }

variable [Sink σ]

def close (session : Session σ) : Session σ :=
  { session.told (.closed session.client.close.result) with client := session.client.close.state }

/-- Writes a batch, and puts it where it belongs when it is written. -/
def send (session : Session σ) (batch : AnyBatch) (put : AnyBatch → List AnyBatch) : Session σ :=
  let report := session.client.write batch.batch
  { client := session.client.withWriter report.writer
    batches := put { batch with batch := report.batch }
    events := session.events ++ [.wrote batch report.result report.deliveries] }

def perform (session : Session σ) : Call → Session σ
  | .write batch => session.send batch (session.batches ++ [·])
  | .rewrite index =>
    match session.batches[index]? with
    | none => session.told .notFound
    | some batch => session.send batch (session.batches.set index)
  | .query query => session.told (.answered (session.client.query query))
  | .queryChunked query => session.told (.answeredInChunks (session.client.queryChunked query))
  | .ping timeout => session.told (.ponged (session.client.ping timeout))
  | .close => session.close

def run (session : Session σ) (calls : List Call) : Session σ := calls.foldl perform session

/-- All that a call can do to a session: closing, answering or writing. -/
theorem perform_cases (session : Session σ) (call : Call) :
    (call.isClose = true ∧ session.perform call = session.close) ∨
    (call.isClose = false ∧
      ((∃ event, event.IsIdle ∧ session.perform call = session.told event) ∨
      ∃ batch put, session.perform call = session.send batch put)) := by
  cases call with
  | close => exact .inl ⟨rfl, rfl⟩
  | write batch => exact .inr ⟨rfl, .inr ⟨batch, (session.batches ++ [·]), rfl⟩⟩
  | rewrite index =>
    refine .inr ⟨rfl, ?_⟩
    simp only [perform]
    cases session.batches[index]? with
    | none => exact .inl ⟨.notFound, trivial, rfl⟩
    | some batch => exact .inr ⟨batch, session.batches.set index, rfl⟩
  | query query => exact .inr ⟨rfl, .inl ⟨.answered _, rfl, rfl⟩⟩
  | queryChunked query => exact .inr ⟨rfl, .inl ⟨.answeredInChunks _, rfl, rfl⟩⟩
  | ping timeout => exact .inr ⟨rfl, .inl ⟨.ponged _, rfl, rfl⟩⟩

theorem events_perform (session : Session σ) (call : Call) :
    ∃ event, event.Answers session.batches call ∧
      (session.perform call).events = session.events ++ [event] := by
  cases call with
  | write batch => exact ⟨.wrote batch _ _, rfl, rfl⟩
  | rewrite index =>
    simp only [perform]
    cases found : session.batches[index]? with
    | none => exact ⟨.notFound, found, rfl⟩
    | some batch => exact ⟨.wrote batch _ _, found, rfl⟩
  | query query => exact ⟨.answered _, trivial, rfl⟩
  | queryChunked query => exact ⟨.answeredInChunks _, trivial, rfl⟩
  | ping timeout => exact ⟨.ponged _, trivial, rfl⟩
  | close => exact ⟨.closed _, trivial, rfl⟩

/-- Events are only added, one by each call. -/
theorem events_run (session : Session σ) (calls : List Call) :
    ∃ added : List Event, added.length = calls.length ∧
      (session.run calls).events = session.events ++ added := by
  induction calls generalizing session with
  | nil => exact ⟨[], rfl, (List.append_nil _).symm⟩
  | cons call calls ih =>
    obtain ⟨event, -, left⟩ := session.events_perform call
    obtain ⟨added, length, rest⟩ := ih (session.perform call)
    refine ⟨event :: added, congrArg (· + 1) length, rest.trans ?_⟩
    rw [left, List.append_assoc, List.singleton_append]

/-- Each call of a run leaves its own event, behind those of the calls before it. -/
theorem run_answers (session : Session σ) (earlier : List Call) (call : Call)
    (later : List Call) :
    ∃ event, event.Answers (session.run earlier).batches call ∧
      (session.run earlier).events ++ [event] <+:
        (session.run (earlier ++ call :: later)).events := by
  obtain ⟨event, answers, left⟩ := (session.run earlier).events_perform call
  have split : session.run (earlier ++ call :: later) =
      ((session.run earlier).perform call).run later := List.foldl_append
  obtain ⟨added, -, rest⟩ := ((session.run earlier).perform call).events_run later
  exact ⟨event, answers, added, by rw [split, rest, left]⟩

/-- What no call takes away from a session still holds after a run. -/
theorem run_preserves {holds : Session σ → Prop}
    (step : ∀ session call, holds session → holds (session.perform call))
    {session : Session σ} (start : holds session) (calls : List Call) :
    holds (session.run calls) := by
  induction calls generalizing session with
  | nil => exact start
  | cons call calls ih =>
    apply ih
    exact step session call start

theorem client_perform_of_isIdle (session : Session σ) {call : Call} (idle : call.isIdle = true) :
    (session.perform call).client = session.client := by
  cases call with
  | query | queryChunked | ping => rfl
  | write | rewrite | close => cases idle

end Session

end SeriesWire
