import SeriesWire.Proofs.Point.Rounding
import SeriesWire.Proofs.Writer.Isolation

/-! Sending a batch of points again. The first write rounds the times and changes nothing else,
and times that are rounded stay where they are, so that the second write makes the same lines
of the points and packs them into the same messages. What was refused goes out as it was. -/
namespace SeriesWire

variable {σ τ : Type}

theorem LineRecord.roundTo_roundTo (unit? : Option Duration) (p : Point) :
    roundTo unit? (roundTo unit? p) = roundTo unit? p := by
  cases unit? with
  | none => rfl
  | some unit => exact p.round_round unit

namespace RecordBatch

/-- The points of a batch as every write of it leaves them. -/
def settled (batch : RecordBatch Point) : RecordBatch Point := ⟨batch.precision, batch.rounded⟩

theorem rounded_settled (batch : RecordBatch Point) : batch.settled.rounded = batch.rounded := by
  simp only [settled, rounded, List.map_map]
  exact List.map_congr_left fun p _ => LineRecord.roundTo_roundTo _ p

theorem settled_settled (batch : RecordBatch Point) : batch.settled.settled = batch.settled :=
  congrArg (RecordBatch.mk batch.precision) batch.rounded_settled

theorem messages_settled (width : Width) (limit : Nat) (batch : RecordBatch Point) :
    batch.settled.messages width limit = batch.messages width limit := by
  simp only [messages, frames, rounded_settled]

end RecordBatch

theorem Writer.batch_write_points [Sink σ] (width : Width) (writer : Writer σ)
    (batch : RecordBatch Point) : (writer.write width batch).batch = batch.settled := by
  have kept : batch.rounded.map (LineRecord.sent width writer.payloadSize) = batch.rounded :=
    List.map_id'' (Point.sent_eq _ _) _
  rw [batch_write, kept, RecordBatch.settled]

theorem Batch.toRecords_withRecords (batch : Batch) (records : RecordBatch Point)
    (same : records.precision = batch.config.precision) :
    (batch.withRecords records).toRecords = records := by
  cases records
  cases same
  rfl

/-- A batch of points that was written once is not changed by a second write, through whatever
writer of the same payload size and whatever was refused, and goes out in the same messages. -/
theorem Writer.write_again_same [Sink σ] [Sink τ] (width : Width) (limit : Nat) (first : σ)
    (second : τ) (batch : Batch) :
    let once := (Writer.mk limit first).write width batch.toRecords
    let left := batch.withRecords once.batch
    let again := (Writer.mk limit second).write width left.toRecords
    Exchange first once.deliveries once.writer.sink ∧
    Exchange second again.deliveries again.writer.sink ∧
    left.withRecords again.batch = left ∧
    again.deliveries.map (·.message) = once.deliveries.map (·.message) := by
  intro once left again
  have settled : once.batch = batch.toRecords.settled := batch_write_points _ _ _
  have resent : left.toRecords = batch.toRecords.settled := by
    rw [← settled]
    exact Batch.toRecords_withRecords _ _ (congrArg RecordBatch.precision settled)
  refine ⟨(write_messages width ⟨limit, first⟩ batch.toRecords).2,
    (write_messages width ⟨limit, second⟩ left.toRecords).2, ?_, ?_⟩
  · have same : again.batch = left.toRecords := by
      rw [batch_write_points, resent, RecordBatch.settled_settled]
    rw [same]
    rfl
  · rw [messages_write, messages_write, resent, RecordBatch.messages_settled]

end SeriesWire
