import SeriesWire.Proofs.Writer.Framing

/-! A sink has no say in what it is sent, nor in what becomes of the batch. Both follow from the
records, the precision and the payload size alone. What a write asks of a record is told by a
record that counts: it is rounded once if the precision names a unit, and divided once if it is
too large after that. -/
namespace SeriesWire

variable {σ τ α : Type}

/-- The messages in which a batch is sent. -/
def RecordBatch.messages [LineRecord α] (width : Width) (limit : Nat) (batch : RecordBatch α) :
    List Bytes :=
  (Packing.ofFrames width limit (batch.frames width limit)).groups.map Line.join

/-- What is asked of a record that may change it. -/
inductive Request where
  | round (unit : Duration)
  | split (size : Nat)
deriving DecidableEq, Repr

/-- A record that counts what is asked of it, and is else as it was. -/
structure Counted (α : Type) where
  record : α
  requests : List Request
deriving DecidableEq

instance [LineRecord α] : LineRecord (Counted α) where
  round unit counted :=
    ⟨LineRecord.round unit counted.record, counted.requests ++ [.round unit]⟩
  hasTime counted := LineRecord.hasTime counted.record
  size counted := LineRecord.size counted.record
  line counted := LineRecord.line counted.record
  split size counted :=
    let (parts, after) := LineRecord.split size counted.record
    (parts.map (⟨·, []⟩), ⟨after, counted.requests ++ [.split size]⟩)

def RecordBatch.counted (batch : RecordBatch α) : RecordBatch (Counted α) :=
  ⟨batch.precision, batch.records.map (⟨·, []⟩)⟩

section

variable [LineRecord α]

/-- What a write leaves of a record that was rounded before. -/
def LineRecord.sent (width : Width) (limit : Nat) (rounded : α) : α :=
  if hasTime rounded ∧ limit < width.add (size rounded) 1 then (split (limit - 1) rounded).2
  else rounded

/-- What a write asks of a record that is `rounded` after the first request. -/
def LineRecord.requests (width : Width) (limit : Nat) (unit? : Option Duration) (rounded : α) :
    List Request :=
  (unit?.map .round).toList ++
    if hasTime rounded ∧ limit < width.add (size rounded) 1 then [.split (limit - 1)] else []

/-- The record as a write leaves it, and all that the write asked of it. -/
def LineRecord.counted (width : Width) (limit : Nat) (unit? : Option Duration) (rounded : α) :
    Counted α :=
  ⟨sent width limit rounded, requests width limit unit? rounded⟩

theorem Frame.record_ofRecord (width : Width) (limit : Nat) (record : α) :
    (ofRecord width limit record).record = LineRecord.sent width limit record := by
  simp only [ofRecord, LineRecord.sent, LineRecord.isOversized_iff]
  split <;> rfl

/-- A record that counts goes out in the same lines. -/
theorem Frame.ofRecord_counted (width : Width) (limit : Nat) (unit? : Option Duration)
    (record : α) :
    ofRecord width limit (LineRecord.roundTo unit? (⟨record, []⟩ : Counted α)) =
      { size := (ofRecord width limit (LineRecord.roundTo unit? record)).size
        lines := (ofRecord width limit (LineRecord.roundTo unit? record)).lines
        record := LineRecord.counted width limit unit? (LineRecord.roundTo unit? record) } := by
  have rounded : LineRecord.roundTo unit? (⟨record, []⟩ : Counted α) =
      ⟨LineRecord.roundTo unit? record, (unit?.map .round).toList⟩ := by
    cases unit? <;> rfl
  have same (record : α) (requests : List Request) :
      LineRecord.isOversized width limit (⟨record, requests⟩ : Counted α) =
        LineRecord.isOversized width limit record := rfl
  simp only [rounded, ofRecord, same, LineRecord.counted, LineRecord.sent, LineRecord.requests,
    LineRecord.isOversized_iff]
  split
  · simp [LineRecord.size, LineRecord.split, LineRecord.line, Line.ofRecord, Function.comp_def]
  · simp [LineRecord.size, LineRecord.line, Line.ofRecord]

namespace RecordBatch

theorem frames_counted (width : Width) (limit : Nat) (batch : RecordBatch α) :
    batch.counted.frames width limit = batch.rounded.map fun rounded =>
      { size := (Frame.ofRecord width limit rounded).size
        lines := (Frame.ofRecord width limit rounded).lines
        record := LineRecord.counted width limit (Precision.unit? batch.precision) rounded } := by
  simp only [frames, counted, rounded, List.map_map]
  exact List.map_congr_left fun record _ => Frame.ofRecord_counted width limit _ record

/-- Packing sees the sizes and the lines of frames, and no record. -/
theorem ofFrames_counted (width : Width) (limit : Nat) (batch : RecordBatch α) :
    Packing.ofFrames width limit (batch.counted.frames width limit) =
      Packing.ofFrames width limit (batch.frames width limit) := by
  rw [frames_counted, frames, Packing.ofFrames, Packing.ofFrames, List.foldl_map,
    List.foldl_map]
  rfl

theorem records_frames (width : Width) (limit : Nat) (batch : RecordBatch α) :
    (batch.frames width limit).map (·.record) =
      batch.rounded.map (LineRecord.sent width limit) := by
  rw [frames, List.map_map]
  exact List.map_congr_left fun record _ => Frame.record_ofRecord width limit record

end RecordBatch

end

namespace Point

theorem sent_eq (width : Width) (limit : Nat) (p : Point) : LineRecord.sent width limit p = p :=
  ite_self p

theorem roundTo_eq (unit? : Option Duration) (p : Point) :
    LineRecord.roundTo unit? p = p.withTime (p.time.map (unit?.elim id Timestamp.round)) := by
  cases unit? with
  | none => exact congrArg p.withTime (Option.map_id_apply ..).symm
  | some unit => rfl

end Point

namespace Writer

variable [Sink σ] [Sink τ] [LineRecord α]

theorem messages_write (width : Width) (writer : Writer σ) (batch : RecordBatch α) :
    (writer.write width batch).deliveries.map (·.message) =
      batch.messages width writer.payloadSize :=
  (writer.write_messages width batch).1

theorem batch_write (width : Width) (writer : Writer σ) (batch : RecordBatch α) :
    (writer.write width batch).batch =
      ⟨batch.precision, batch.rounded.map (LineRecord.sent width writer.payloadSize)⟩ := by
  rw [write_eq_writePacked]
  exact congrArg (RecordBatch.mk batch.precision) (batch.records_frames width writer.payloadSize)

theorem records_write_counted (width : Width) (writer : Writer σ) (batch : RecordBatch α) :
    (writer.write width batch.counted).batch.records = batch.rounded.map
      (LineRecord.counted width writer.payloadSize (Precision.unit? batch.precision)) := by
  rw [write_eq_writePacked]
  change (batch.counted.frames width writer.payloadSize).map (·.record) = _
  rw [RecordBatch.frames_counted, List.map_map]
  rfl

theorem deliveries_write_counted (width : Width) (writer : Writer σ) (batch : RecordBatch α) :
    (writer.write width batch.counted).deliveries = (writer.write width batch).deliveries := by
  simp only [write_eq_writePacked, writePacked, RecordBatch.ofFrames_counted]
  rfl

/-- Whatever two sinks answer, they are handed the same messages, and the batch is left the
same: every record was rounded once if the precision names a unit, and then divided once if it
has a time and is too large. Of points only the times change. -/
theorem write_independent_of_sink (width : Width) (limit : Nat) (first : σ) (second : τ)
    (batch : RecordBatch α) :
    let one := (Writer.mk limit first).write width batch
    let other := (Writer.mk limit second).write width batch
    let counting := (Writer.mk limit first).write width batch.counted
    Exchange first one.deliveries one.writer.sink ∧
    Exchange second other.deliveries other.writer.sink ∧
    one.deliveries.map (·.message) = other.deliveries.map (·.message) ∧
    one.batch = other.batch ∧
    one.batch = ⟨batch.precision, batch.rounded.map (LineRecord.sent width limit)⟩ ∧
    counting.deliveries = one.deliveries ∧
    counting.batch.records = batch.rounded.map
      (LineRecord.counted width limit (Precision.unit? batch.precision)) ∧
    ∀ points : Batch,
      points.withRecords ((Writer.mk limit first).write width points.toRecords).batch =
        { points with points := points.points.map fun p =>
            p.withTime (p.time.map (points.unit?.elim id Timestamp.round)) } := by
  intro one other counting
  refine ⟨(write_messages width ⟨limit, first⟩ batch).2,
    (write_messages width ⟨limit, second⟩ batch).2, ?_, ?_, batch_write width _ batch,
    deliveries_write_counted width _ batch, records_write_counted width _ batch, ?_⟩
  · rw [messages_write, messages_write]
  · rw [batch_write, batch_write]
  · intro points
    have rounded : points.toRecords.rounded.map (LineRecord.sent width limit) =
        points.points.map fun p =>
          p.withTime (p.time.map (points.unit?.elim id Timestamp.round)) := by
      rw [RecordBatch.rounded, List.map_map]
      refine List.map_congr_left fun p _ => ?_
      rw [Function.comp_apply, Point.sent_eq, Point.roundTo_eq]
      rfl
    rw [batch_write, rounded]
    rfl

end Writer

end SeriesWire
