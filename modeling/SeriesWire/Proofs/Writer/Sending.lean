import SeriesWire.Proofs.Sink.Exchange
import SeriesWire.Proofs.Writer.TwoPhases

/-! What a write tells of the messages that it hands over: every one of them is in the
report with the answer of the sink, every refusal but that of a last message is noted, and
the result is the last refusal. -/
namespace SeriesWire

variable {σ α : Type}

/-- What is noted of a message that others follow. -/
def Delivery.notice? (delivery : Delivery) : Option Notice :=
  delivery.refusal.map (.sendFailed delivery.message.length)

/-- Why the last of some messages that were refused was refused. -/
def Delivery.lastRefusal? (deliveries : List Delivery) : Option IoError :=
  (deliveries.filterMap (·.refusal)).getLast?

def ClientError.outcome : Option IoError → Except ClientError Unit
  | none => .ok ()
  | some cause => .error (.writeFailed cause)

theorem Delivery.lastRefusal?_append (earlier later : List Delivery) :
    lastRefusal? (earlier ++ later) = (lastRefusal? later).or (lastRefusal? earlier) := by
  simp [lastRefusal?, List.getLast?_append]

theorem Delivery.lastRefusal?_eq_none (deliveries : List Delivery) :
    lastRefusal? deliveries = none ↔ ∀ delivery ∈ deliveries, delivery.refusal = none := by
  simp [lastRefusal?]

theorem Delivery.text_notice? (delivery : Delivery) :
    delivery.notice?.map (fun notice => (notice.level, notice.text)) =
      delivery.refusal.map fun cause => (.warn,
        s!"failed to send {delivery.message.length} bytes of line protocol data: {cause.message}") := by
  unfold notice?
  cases delivery.refusal <;> rfl

namespace Sending

variable [Sink σ]

/-- `after` is what a write under way becomes when some messages are handed over of which
each is followed by others. -/
structure Flushed (before : Sending σ) (flushes : List Delivery) (after : Sending σ) : Prop where
  exchange : Exchange before.sink flushes after.sink
  deliveries : after.deliveries = flushes.reverse ++ before.deliveries
  notices : after.notices = (flushes.filterMap Delivery.notice?).reverse ++ before.notices
  delayed : after.delayed = (Delivery.lastRefusal? flushes).or before.delayed

theorem Flushed.trans {first second third : Sending σ} {earlier later : List Delivery}
    (h : Flushed first earlier second) (next : Flushed second later third) :
    Flushed first (earlier ++ later) third where
  exchange := h.exchange.append next.exchange
  deliveries := by simp [next.deliveries, h.deliveries]
  notices := by simp [next.notices, h.notices]
  delayed := by simp [next.delayed, h.delayed, Delivery.lastRefusal?_append, Option.or_assoc]

/-- Handing over is one exchange, and changes nothing but the sink and the deliveries. -/
theorem handOver_exchange (sending : Sending σ) (message : Bytes) :
    Exchange sending.sink [⟨message, (sending.handOver message).1⟩]
      (sending.handOver message).2.sink ∧
    (sending.handOver message).2 = { sending with
      sink := (sending.handOver message).2.sink
      deliveries := ⟨message, (sending.handOver message).1⟩ :: sending.deliveries } := by
  unfold handOver
  cases answer : Sink.send message sending.sink with
  | mk result next =>
    cases result with
    | ok => exact ⟨.taken answer (.done next), rfl⟩
    | error cause => exact ⟨.refused answer (.done next), rfl⟩

theorem flush_flushed (sending : Sending σ) (message : Bytes) :
    Flushed sending [⟨message, (sending.handOver message).1⟩] (sending.flush message) := by
  obtain ⟨exchange, same⟩ := handOver_exchange sending message
  unfold flush
  cases answer : sending.handOver message with
  | mk refusal after =>
    simp only [answer] at exchange same
    cases refusal with
    | none =>
      exact ⟨exchange, by rw [same]; rfl, by rw [same]; rfl, by rw [same]; rfl⟩
    | some cause =>
      exact ⟨exchange, by rw [same]; rfl, by rw [same]; rfl, rfl⟩

theorem foldl_flush_flushed (sending : Sending σ) (messages : List Bytes) :
    ∃ flushes, flushes.map Delivery.message = messages ∧
      Flushed sending flushes (messages.foldl flush sending) := by
  induction messages generalizing sending with
  | nil => exact ⟨[], rfl, .done _, rfl, rfl, rfl⟩
  | cons message messages ih =>
    obtain ⟨flushes, rfl, later⟩ := ih (sending.flush message)
    exact ⟨_ :: flushes, rfl, (flush_flushed sending message).trans later⟩

theorem finish_some (sending : Sending σ) (message : Bytes) :
    sending.finish (some message) =
      ((sending.handOver message).1.or (sending.handOver message).2.delayed,
        (sending.handOver message).2) := rfl

theorem finish_exchange (sending : Sending σ) (last? : Option Bytes) :
    ∃ final? : Option Delivery, final?.map Delivery.message = last? ∧
      Exchange sending.sink final?.toList (sending.finish last?).2.sink ∧
      (sending.finish last?).2.deliveries = final?.toList ++ sending.deliveries ∧
      (sending.finish last?).2.notices = sending.notices ∧
      (sending.finish last?).1 = (Delivery.lastRefusal? final?.toList).or sending.delayed := by
  cases last? with
  | none => exact ⟨none, rfl, .done _, rfl, rfl, rfl⟩
  | some message =>
    obtain ⟨exchange, same⟩ := handOver_exchange sending message
    refine ⟨some ⟨message, (sending.handOver message).1⟩, rfl, exchange, ?_, ?_, ?_⟩
    · rw [finish_some, same]
      rfl
    · rw [finish_some, same]
    · rw [finish_some, same]
      cases (sending.handOver message).1 <;> rfl

end Sending

/-- What a write tells of the messages that it handed over: those which others followed, and
what was left in the buffer at the end, if anything was. -/
structure WriteReport.Tells [Sink σ] (report : WriteReport σ α) (filled : MessageBuffer σ)
    (sink : σ) (flushes : List Delivery) (final? : Option Delivery) : Prop where
  exchange : Exchange sink (flushes ++ final?.toList) report.writer.sink
  flushed : flushes = filled.sending.deliveries.reverse
  left : final?.map (·.message) = filled.rest?
  deliveries : report.deliveries = flushes ++ final?.toList
  notices : report.notices = flushes.filterMap Delivery.notice?
  result : report.result = ClientError.outcome (Delivery.lastRefusal? (flushes ++ final?.toList))

namespace Writer

variable [Sink σ] [LineRecord α]

theorem write_tells (width : Width) (writer : Writer σ)
    (batch : RecordBatch α) {packing : Packing}
    (packed : .ofFrames width writer.payloadSize (batch.frames width writer.payloadSize) =
      packing) :
    ∃ (flushes : List Delivery) (final? : Option Delivery),
      flushes.map Delivery.message = packing.flushed.map Line.join ∧
      final?.map Delivery.message = packing.last?.map Line.join ∧
      (writer.write width batch).Tells (writer.fill width batch).1 writer.sink flushes final? := by
  obtain ⟨follows, -⟩ := writer.fill_follows width batch
  rw [packed] at follows
  obtain ⟨flushes, messages, flushed⟩ :=
    Sending.foldl_flush_flushed (.start writer.sink) (packing.flushed.map Line.join)
  rw [← follows.sending] at flushed
  obtain ⟨final?, left, exchange, deliveries, notices, error⟩ :=
    Sending.finish_exchange (writer.fill width batch).1.sending (writer.fill width batch).1.rest?
  refine ⟨flushes, final?, messages, left.trans follows.rest?_eq, ?_⟩
  constructor
  case exchange => exact flushed.exchange.append exchange
  case flushed => simp [flushed.deliveries, Sending.start]
  case left => exact left
  case deliveries =>
    rw [flushed.deliveries] at deliveries
    refine (congrArg List.reverse deliveries).trans ?_
    cases final? <;> simp [Sending.start]
  case notices =>
    rw [flushed.notices] at notices
    refine (congrArg List.reverse notices).trans ?_
    simp [Sending.start]
  case result =>
    rw [flushed.delayed] at error
    refine (congrArg ClientError.outcome error).trans ?_
    rw [Delivery.lastRefusal?_append, Sending.start, Option.or_none]

/-- The result of a write is that of its own messages. -/
theorem result_write (width : Width) (writer : Writer σ) (batch : RecordBatch α) :
    (writer.write width batch).result =
      ClientError.outcome (Delivery.lastRefusal? (writer.write width batch).deliveries) := by
  obtain ⟨flushes, final?, -, -, told⟩ := writer.write_tells width batch rfl
  rw [told.result, told.deliveries]

end Writer

end SeriesWire
