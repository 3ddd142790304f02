import SeriesWire.Proofs.Writer.Packing
import SeriesWire.Writer.Basic

/-! Filling and sending told apart. A write hands a message over as soon as it is full, and
goes on with an empty buffer whatever the answer is. So the buffer holds at every moment the
lines that packing alone would have pending, and what was done with the sink is what sending
the full messages alone comes to. -/
namespace SeriesWire

variable {σ α : Type} [Sink σ]

namespace MessageBuffer

/-- The buffer holds the pending lines of a packing, and the full messages were handed over. -/
structure Follows (buffer : MessageBuffer σ) (sink : σ) (limit : Nat) (packing : Packing) :
    Prop where
  limit : buffer.limit = limit
  message : buffer.message.toList = Line.join packing.pending.reverse
  sending : buffer.sending = (packing.flushed.map Line.join).foldl Sending.flush (.start sink)

variable {buffer : MessageBuffer σ} {sink : σ} {limit : Nat} {packing : Packing}

theorem follows_start (limit : Nat) (sink : σ) : (start limit sink).Follows sink limit .empty :=
  ⟨rfl, rfl, rfl⟩

theorem Follows.isEmpty_iff (follows : buffer.Follows sink limit packing) :
    buffer.message.isEmpty = true ↔ packing.pending = [] := by
  rw [← Array.isEmpty_toList, follows.message, List.isEmpty_iff, Line.join_eq_nil_iff,
    List.reverse_eq_nil_iff]

theorem Follows.size_eq (follows : buffer.Follows sink limit packing) :
    buffer.message.size = packing.filled := by
  rw [← Array.length_toList, follows.message, Packing.filled]

theorem Follows.reserve (follows : buffer.Follows sink limit packing) (width : Width)
    (octets : Nat) :
    (buffer.reserve width octets).Follows sink limit (packing.reserve width limit octets) := by
  have test : (!buffer.message.isEmpty &&
        buffer.limit < width.add buffer.message.size octets) = true ↔
      packing.pending ≠ [] ∧ limit < width.add packing.filled octets := by
    rw [Bool.and_eq_true, decide_eq_true_eq, Bool.not_eq_true', ← Bool.not_eq_true,
      follows.isEmpty_iff, follows.limit, follows.size_eq]
  unfold MessageBuffer.reserve Packing.reserve
  by_cases full : packing.pending ≠ [] ∧ limit < width.add packing.filled octets
  · rw [if_pos (test.mpr full), if_pos full]
    refine ⟨follows.limit, rfl, ?_⟩
    simp [clear, flush, Packing.flushed, follows.message, follows.sending]
  · rwa [if_neg (mt test.mp full), if_neg full]

variable [LineRecord α]

theorem Follows.append (follows : buffer.Follows sink limit packing) (record : α) :
    (buffer.append record).Follows sink limit (packing.append (.ofRecord record)) where
  limit := follows.limit
  message := by
    simp [MessageBuffer.append, Packing.append, Line.join, Line.terminated, Line.ofRecord,
      follows.message]
  sending := follows.sending

theorem Follows.foldl_addPart (follows : buffer.Follows sink limit packing) (width : Width)
    (parts : List α) :
    (parts.foldl (addPart width) buffer).Follows sink limit
      ((parts.map Line.ofRecord).foldl (Packing.addLine width limit) packing) := by
  induction parts generalizing buffer packing with
  | nil => exact follows
  | cons part parts ih => exact ih ((follows.reserve width _).append part)

/-- Whether a record goes in as a whole or in parts, room is made for the whole first. -/
theorem Follows.add (follows : buffer.Follows sink limit packing) (width : Width)
    (unit? : Option Duration) (record : α) :
    let frame := Frame.ofRecord width limit (LineRecord.roundTo unit? record)
    (buffer.add width unit? record).1.Follows sink limit (packing.addFrame width limit frame) ∧
      (buffer.add width unit? record).2 = frame.record := by
  unfold MessageBuffer.add
  generalize LineRecord.roundTo unit? record = rounded
  intro frame
  have reserved := follows.reserve width (LineRecord.octets width rounded)
  simp only [reserved.limit]
  by_cases oversized : LineRecord.isOversized width limit rounded = true
  · have parted : frame = ⟨LineRecord.size rounded,
        (LineRecord.split (limit - 1) rounded).1.map .ofRecord,
        (LineRecord.split (limit - 1) rounded).2⟩ := if_pos oversized
    rw [if_pos oversized, parted]
    exact ⟨reserved.foldl_addPart width _, rfl⟩
  · have whole : frame = ⟨LineRecord.size rounded, [.ofRecord rounded], rounded⟩ :=
      if_neg oversized
    rw [if_neg oversized, whole]
    refine ⟨?_, rfl⟩
    -- Packing makes the same room again for the only line, which changes nothing.
    have again := Packing.reserve_reserve width limit packing (LineRecord.octets width rounded)
    simp only [Packing.addFrame, List.foldl_cons, List.foldl_nil, Packing.addLine]
    exact again.symm ▸ reserved.append rounded

theorem Follows.addAll (follows : buffer.Follows sink limit packing) (width : Width)
    (unit? : Option Duration) (records : List α) :
    let frames := records.map fun record =>
      Frame.ofRecord width limit (LineRecord.roundTo unit? record)
    (buffer.addAll width unit? records).1.Follows sink limit
        (frames.foldl (Packing.addFrame width limit) packing) ∧
      (buffer.addAll width unit? records).2 = frames.map (·.record) := by
  induction records generalizing buffer packing with
  | nil => exact ⟨follows, rfl⟩
  | cons record records ih =>
    obtain ⟨added, after⟩ := follows.add width unit? record
    obtain ⟨filled, left⟩ := ih added
    exact ⟨filled, List.cons_eq_cons.mpr ⟨after, left⟩⟩

theorem Follows.rest?_eq (follows : buffer.Follows sink limit packing) :
    buffer.rest? = packing.last?.map Line.join := by
  unfold rest? Packing.last?
  simp only [follows.isEmpty_iff, follows.message, List.isEmpty_iff]
  split <;> rfl

end MessageBuffer

namespace Writer

variable [LineRecord α]

/-- The buffer of a write follows the lines of its batch packed without a sink. -/
theorem fill_follows (width : Width) (writer : Writer σ) (batch : RecordBatch α) :
    (writer.fill width batch).1.Follows writer.sink writer.payloadSize
        (.ofFrames width writer.payloadSize (batch.frames width writer.payloadSize)) ∧
      (writer.fill width batch).2 =
        (batch.frames width writer.payloadSize).map (·.record) := by
  have frames : batch.frames width writer.payloadSize = batch.records.map fun record =>
      Frame.ofRecord width writer.payloadSize
        (LineRecord.roundTo (Precision.unit? batch.precision) record) := by
    simp [RecordBatch.frames, RecordBatch.rounded]
  rw [frames]
  exact (MessageBuffer.follows_start _ _).addAll width _ _

/-- A write in two phases: all lines are packed before the first message is handed over. -/
def writePacked (width : Width) (writer : Writer σ) (batch : RecordBatch α) : WriteReport σ α :=
  let frames := batch.frames width writer.payloadSize
  let packing := Packing.ofFrames width writer.payloadSize frames
  let sending := (packing.flushed.map Line.join).foldl Sending.flush (.start writer.sink)
  writer.report batch (frames.map (·.record)) (sending.finish (packing.last?.map Line.join))

/-- Handing messages over while others are still to be filled makes no difference. -/
theorem write_eq_writePacked (width : Width) (writer : Writer σ) (batch : RecordBatch α) :
    writer.write width batch = writer.writePacked width batch := by
  obtain ⟨follows, records⟩ := writer.fill_follows width batch
  simp only [write, writePacked, MessageBuffer.finish, follows.rest?_eq, follows.sending,
    records]

end Writer

end SeriesWire
