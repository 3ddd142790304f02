import SeriesWire.Proofs.Client.Session

/-! The life cycle of a client over a recorder. Up to the first close every message counts, and
its number alone tells whether it is taken; from then on nothing reaches the recorder. What a
write comes to follows from its own batch and the answers to its own messages, so that nothing
of an earlier call is left in it. -/
namespace SeriesWire

theorem Delivery.lastRefusal?_of_forall {cause : IoError} {deliveries : List Delivery}
    (refused : ∀ delivery ∈ deliveries, delivery.refusal = some cause) :
    lastRefusal? deliveries = if deliveries = [] then none else some cause := by
  rcases deliveries.eq_nil_or_concat with rfl | ⟨earlier, last, rfl⟩
  · rfl
  · rw [List.concat_eq_append] at refused ⊢
    have own : lastRefusal? [last] = some cause := by
      simp [lastRefusal?, refused last (by simp)]
    rw [lastRefusal?_append, own, if_neg (by simp)]
    rfl

theorem Writer.deliveries_eq_nil_iff {σ α : Type} [Sink σ] [LineRecord α] (width : Width)
    (writer : Writer σ) (batch : RecordBatch α) :
    (writer.write width batch).deliveries = [] ↔
      batch.wireLines width writer.payloadSize = [] := by
  obtain ⟨shipments, lines, nonempty, deliveries⟩ := writer.write_shipments width batch
  rw [deliveries, ← lines, List.map_eq_nil_iff, List.flatMap_eq_nil_iff]
  constructor
  · rintro rfl shipment ⟨⟩
  · intro empty
    refine List.eq_nil_iff_forall_not_mem.mpr ?_
    intro shipment member
    exact nonempty shipment member (empty shipment member)

namespace Event

/-- What writing a batch comes to after some events. Of these it matters only how many messages
were counted, and whether there was a close. -/
structure Written (limit : Nat) (listed : List Nat) (earlier : List Event) (batch : AnyBatch)
    (outcome : Except ClientError Unit) (deliveries : List Delivery) : Prop where
  messages : deliveries.map (·.message) = batch.batch.messages .machine limit
  result : outcome = ClientError.outcome (Delivery.lastRefusal? deliveries)
  whileOpen : anyClose earlier = false →
    deliveries =
      Recorder.answers listed (counted earlier).length (batch.batch.messages .machine limit)
  onceClosed : anyClose earlier = true →
    outcome =
      if batch.batch.wireLines .machine limit = [] then Except.ok ()
      else Except.error (ClientError.writeFailed .closed)

/-- What a call has to come to after some events. -/
def Fits (limit : Nat) (listed : List Nat) (earlier : List Event) : Event → Prop
  | .wrote batch result deliveries => Written limit listed earlier batch result deliveries
  | .closed result => result = Except.ok ()
  | event => event.IsIdle

/-- The recorder holds what the events make of it, and every event fits to those before it. -/
structure Recorded (limit : Nat) (listed : List Nat) (events : List Event)
    (recorder : Recorder) : Prop where
  failAt : recorder.failAt = listed
  attempts : recorder.attempts = (counted events).length
  writes : recorder.writes = Recorder.kept listed 0 (counted events)
  isClosed : recorder.isClosed = anyClose events
  fits : ∀ earlier event, earlier ++ [event] <+: events → event.Fits limit listed earlier

variable {limit : Nat} {listed : List Nat} {events : List Event} {recorder : Recorder}

theorem recorded_start (limit : Nat) (listed : List Nat) :
    Recorded limit listed [] (Recorder.failing listed) where
  failAt := rfl
  attempts := rfl
  writes := rfl
  isClosed := rfl
  fits := by
    intro earlier event started
    simp at started

theorem fits_concat (event : Event)
    (fits : ∀ earlier event, earlier ++ [event] <+: events → event.Fits limit listed earlier)
    (new : event.Fits limit listed events) :
    ∀ earlier other, earlier ++ [other] <+: events ++ [event] →
      other.Fits limit listed earlier := by
  intro earlier other started
  rcases List.prefix_concat_iff.mp started with whole | before
  · obtain ⟨rfl, same⟩ := List.append_inj' whole rfl
    obtain rfl := List.head_eq_of_cons_eq same
    exact new
  · exact fits earlier other before

/-- An event without messages and without a close is told, and nothing else happens. -/
theorem Recorded.idle (recorded : Recorded limit listed events recorder) {event : Event}
    (idle : event.IsIdle) : Recorded limit listed (events ++ [event]) recorder := by
  obtain ⟨noMessage, noClose⟩ := silent_of_isIdle idle
  have fits : event.Fits limit listed events := by
    cases event with
    | answered | answeredInChunks | ponged | notFound => exact idle
    | wrote | closed => cases idle
  have counted := counted_concat_of_silent noMessage events
  have closes : anyClose (events ++ [event]) = anyClose events := by
    rw [anyClose_concat, noClose, Bool.or_false]
  constructor
  case failAt => exact recorded.failAt
  case attempts => rw [counted, recorded.attempts]
  case writes => rw [counted, recorded.writes]
  case isClosed => rw [closes, recorded.isClosed]
  case fits => exact fits_concat event recorded.fits fits

theorem Recorded.close (recorded : Recorded limit listed events recorder) :
    Recorded limit listed (events ++ [.closed (.ok ())]) { recorder with isClosed := true } := by
  have counted : counted (events ++ [.closed (.ok ())]) = counted events :=
    counted_concat_of_silent rfl events
  constructor
  case failAt => exact recorded.failAt
  case attempts => rw [counted, ← recorded.attempts]
  case writes => rw [counted, ← recorded.writes]; rfl
  case isClosed => rw [anyClose_concat, isClose, Bool.or_true]
  case fits => exact fits_concat (.closed (.ok ())) recorded.fits rfl

/-- Whether the recorder is open or closed, a write is told as the events before it ask. -/
theorem written {writer : Writer Recorder}
    (recorded : Recorded writer.payloadSize listed events writer.sink) (batch : AnyBatch) :
    Written writer.payloadSize listed events batch (writer.write .machine batch.batch).result
      (writer.write .machine batch.batch).deliveries := by
  obtain ⟨own, exchange⟩ := writer.write_messages .machine batch.batch
  constructor
  case messages => exact own
  case result => exact writer.result_write .machine batch.batch
  case whileOpen =>
    intro noClose
    have isOpen := recorded.isClosed.trans noClose
    have answers := (Recorder.counts_of_exchange exchange isOpen).answers
    rwa [recorded.failAt, recorded.attempts, own] at answers
  case onceClosed =>
    intro anyClose
    have closed := recorded.isClosed.trans anyClose
    obtain ⟨-, refused⟩ := Recorder.eq_of_exchange_closed exchange closed
    rw [writer.result_write, Delivery.lastRefusal?_of_forall refused, apply_ite ClientError.outcome]
    simp only [writer.deliveries_eq_nil_iff]
    rfl

theorem Recorded.wrote (recorded : Recorded limit listed events recorder) {last : Recorder}
    {batch : AnyBatch} {result : Except ClientError Unit} {deliveries : List Delivery}
    (exchange : Exchange recorder deliveries last)
    (written : Written limit listed events batch result deliveries) :
    Recorded limit listed (events ++ [.wrote batch result deliveries]) last := by
  have fits := fits_concat (.wrote batch result deliveries) recorded.fits written
  have counts : counted (events ++ [.wrote batch result deliveries]) =
      counted events ++ if anyClose events then [] else deliveries.map (·.message) :=
    counted_concat (fun closes => Bool.noConfusion closes) events
  have closes : anyClose (events ++ [.wrote batch result deliveries]) = anyClose events :=
    (anyClose_concat events _).trans (Bool.or_false _)
  -- After a close the messages do not count; before it they count on from the earlier ones.
  cases closed : anyClose events with
  | true =>
    obtain ⟨rfl, -⟩ :=
      Recorder.eq_of_exchange_closed exchange (recorded.isClosed.trans closed)
    rw [closed, if_pos rfl, List.append_nil] at counts
    constructor
    case failAt => exact recorded.failAt
    case attempts => rw [counts, recorded.attempts]
    case writes => rw [counts, recorded.writes]
    case isClosed => rw [closes, recorded.isClosed]
    case fits => exact fits
  | false =>
    have isOpen := recorded.isClosed.trans closed
    obtain ⟨-, failAt, attempts, stillOpen⟩ := Recorder.counts_of_exchange exchange isOpen
    have writes := Recorder.writes_of_exchange exchange isOpen
    rw [closed, if_neg Bool.false_ne_true] at counts
    constructor
    case failAt => rw [failAt, recorded.failAt]
    case attempts => rw [attempts, counts, List.length_append, List.length_map, recorded.attempts]
    case writes =>
      rw [writes, counts, Recorder.kept_append, recorded.writes, recorded.failAt,
        recorded.attempts, Nat.zero_add]
    case isClosed => rw [closes, closed, stillOpen]
    case fits => exact fits

end Event

namespace Session

variable {limit : Nat} {listed : List Nat} {session : Session Recorder}

/-- The events tell what the recorder holds, for messages of at most `limit` octets. -/
structure Regular (limit : Nat) (listed : List Nat) (session : Session Recorder) : Prop where
  payloadSize : session.client.payloadSize = limit
  recorded : Event.Recorded limit listed session.events session.sink

theorem regular_start (peer : SocketAddress) (payloadSize : Nat) (listed : List Nat) :
    Regular (max payloadSize 1) listed
      (start ⟨peer, Writer.create (Recorder.failing listed) payloadSize⟩) :=
  ⟨rfl, Event.recorded_start _ listed⟩

theorem Regular.perform (regular : session.Regular limit listed) (call : Call) :
    (session.perform call).Regular limit listed := by
  obtain ⟨rfl, recorded⟩ := regular
  rcases session.perform_cases call with
    ⟨-, same⟩ | ⟨-, ⟨event, idle, same⟩ | ⟨batch, put, same⟩⟩
  · rw [same]
    exact ⟨rfl, recorded.close⟩
  · rw [same]
    exact ⟨rfl, recorded.idle idle⟩
  · obtain ⟨-, exchange⟩ := session.client.writer.write_messages .machine batch.batch
    rw [same]
    exact ⟨rfl, recorded.wrote exchange (Event.written recorded batch)⟩

theorem anyClose_perform {σ : Type} [Sink σ] (session : Session σ) (call : Call) :
    Event.anyClose (session.perform call).events =
      (Event.anyClose session.events || call.isClose) := by
  rcases session.perform_cases call with
    ⟨closes, same⟩ | ⟨other, ⟨event, idle, same⟩ | ⟨batch, put, same⟩⟩
  · rw [same, closes]
    exact Event.anyClose_concat ..
  · obtain ⟨-, noClose⟩ := Event.silent_of_isIdle idle
    rw [same, other, ← noClose]
    exact Event.anyClose_concat ..
  · rw [same, other]
    exact Event.anyClose_concat ..

theorem anyClose_run {σ : Type} [Sink σ] (session : Session σ) (calls : List Call) :
    Event.anyClose (session.run calls).events =
      (Event.anyClose session.events || calls.any (·.isClose)) := by
  induction calls generalizing session with
  | nil => exact (Bool.or_false _).symm
  | cons call calls ih =>
    rw [List.any_cons, ← Bool.or_assoc, ← anyClose_perform]
    exact ih (session.perform call)

theorem sink_perform_of_isClosed (session : Session Recorder) (call : Call)
    (closed : session.sink.isClosed = true) : (session.perform call).sink = session.sink := by
  rcases session.perform_cases call with
    ⟨-, same⟩ | ⟨-, ⟨event, -, same⟩ | ⟨batch, put, same⟩⟩
  · rw [same]
    change { session.sink with isClosed := true } = session.sink
    rw [← closed]
  · rw [same]
    rfl
  · obtain ⟨-, exchange⟩ := session.client.writer.write_messages .machine batch.batch
    rw [same]
    exact (Recorder.eq_of_exchange_closed exchange closed).1

/-- Whatever is done with a client and in whatever order, every call leaves one event of its own.
The recorder has counted the messages of all calls up to the first close and keeps those whose
numbers are not listed. Calls that are answered without the connection leave the client as it is.
Once there was a close, nothing changes the recorder, closing succeeds and a write fails exactly
if it has a line to send. The messages of a write are those of its batch, and its result is that
of its last refused message. -/
theorem run_life_cycle (peer : SocketAddress) (payloadSize : Nat) (listed : List Nat)
    (calls : List Call) :
    let first := start ⟨peer, Writer.create (Recorder.failing listed) payloadSize⟩
    let session := first.run calls
    let counted := Event.counted session.events
    session.sink.attempts = counted.length ∧
    session.sink.writes =
      ((counted.zipIdx).filter fun (_, attempt) => attempt ∉ listed).map (·.1) ∧
    session.sink.isClosed = calls.any (·.isClose) ∧
    (∀ call, call.isIdle = true → (session.perform call).client = session.client) ∧
    (session.sink.isClosed = true → ∀ later, (session.run later).sink = session.sink) ∧
    session.events.length = calls.length ∧
    (∀ earlier call later, calls = earlier ++ call :: later →
      (first.run earlier).events.length = earlier.length ∧
      ∃ event, event.Answers (first.run earlier).batches call ∧
        (first.run earlier).events ++ [event] <+: session.events) ∧
    ∀ earlier event, earlier ++ [event] <+: session.events →
      event.Fits (max payloadSize 1) listed earlier := by
  intro first session counted
  have regular : session.Regular (max payloadSize 1) listed := by
    apply run_preserves
    · intro session call regular
      exact regular.perform call
    · exact regular_start peer payloadSize listed
  obtain ⟨-, recorded⟩ := regular
  have lengths (calls : List Call) : (first.run calls).events.length = calls.length := by
    obtain ⟨added, length, events⟩ := first.events_run calls
    rw [events, List.length_append, length]
    exact Nat.zero_add _
  refine ⟨recorded.attempts, recorded.writes, ?_, ?_, ?_, lengths calls, ?_, recorded.fits⟩
  · rw [recorded.isClosed]
    exact anyClose_run _ calls
  · intro call idle
    exact session.client_perform_of_isIdle idle
  · intro closed later
    have stays (next : Session Recorder) (call : Call) (same : next.sink = session.sink) :
        (next.perform call).sink = session.sink := by
      rw [← same] at closed ⊢
      exact next.sink_perform_of_isClosed call closed
    exact run_preserves stays rfl later
  · rintro earlier call later rfl
    exact ⟨lengths earlier, first.run_answers earlier call later⟩

end Session

end SeriesWire
