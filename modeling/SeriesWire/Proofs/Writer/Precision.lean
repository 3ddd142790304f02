import SeriesWire.Proofs.Batch.Calls
import SeriesWire.Proofs.Writer.Resending

/-! Times are never sent unrounded without a word. A write takes a precision that it does not know
for none at all, but no batch gets to have one. So a precision that is not empty has a unit, and
to it a write rounds the times of all points that it sends. -/
namespace SeriesWire

/-- A write leaves these points in the batch, and the messages that it hands to its sink hold
their lines. -/
structure Writer.SendsAs {σ : Type} [Sink σ] (width : Width) (writer : Writer σ) (batch : Batch)
    (points : List Point) : Prop where
  left : batch.withRecords (writer.write width batch.toRecords).batch = { batch with points }
  lines : ∃ groups : List (List Point),
    groups.flatten = points.flatMap (LineRecord.pieces width writer.payloadSize) ∧
    (writer.write width batch.toRecords).deliveries.map (·.message) =
      groups.map (·.flatMap LineRecord.wireLine)
  exchange : Exchange writer.sink (writer.write width batch.toRecords).deliveries
    (writer.write width batch.toRecords).writer.sink

namespace Writer

variable {σ : Type} [Sink σ]

theorem sendsAs_rounded (width : Width) (writer : Writer σ) (batch : Batch) :
    writer.SendsAs width batch batch.toRecords.rounded where
  left := by
    rw [batch_write_points]
    rfl
  lines := by
    obtain ⟨groups, flatten, -, messages, -⟩ := writer.write_groups width batch.toRecords
    exact ⟨groups, flatten, messages⟩
  exchange := (writer.write_messages width batch.toRecords).2

theorem sendsAs_points (width : Width) (writer : Writer σ) {batch : Batch}
    (unitless : batch.unit? = none) : writer.SendsAs width batch batch.points := by
  have same : batch.toRecords.rounded = batch.points := by
    change batch.points.map (LineRecord.roundTo batch.unit?) = batch.points
    rw [unitless]
    exact List.map_id batch.points
  exact same ▸ writer.sendsAs_rounded width batch

theorem sendsAs_rounded_to (width : Width) (writer : Writer σ) {batch : Batch} {unit : Duration}
    (named : batch.unit? = some unit) :
    writer.SendsAs width batch
      (batch.points.map fun p => p.withTime (p.time.map (Timestamp.round unit))) := by
  have same : batch.toRecords.rounded =
      batch.points.map fun p => p.withTime (p.time.map (Timestamp.round unit)) := by
    change batch.points.map (LineRecord.roundTo batch.unit?) = _
    rw [named]
    rfl
  exact same ▸ writer.sendsAs_rounded width batch

/-- However a batch came to be as it is, it goes out with its times rounded to the unit of its
precision, or as they are if the precision is empty, and there is no third way. -/
theorem write_rounds_unless_precision_empty {start : Batch} (new : start.IsNew)
    (calls : List BatchCall) (width : Width) (writer : Writer σ) :
    let batch := start.run calls
    (batch.config.precision = "" ∨ (Precision.unit? batch.config.precision).isSome) ∧
    (∀ tag, (tag ≠ "" ∧ Precision.unit? tag = none) ∧
        batch.perform (.setPrecision tag) = (.refused (.invalidPrecision tag), batch) ∨
      (tag = "" ∨ (Precision.unit? tag).isSome) ∧ (batch.perform (.setPrecision tag)).1 = .done) ∧
    (batch.config.precision = "" → writer.SendsAs width batch batch.points) ∧
    (batch.config.precision ≠ "" → ∃ unit,
      Precision.unit? batch.config.precision = some unit ∧ 0 < unit.toNanos ∧
      writer.SendsAs width batch
        (batch.points.map fun p => p.withTime (p.time.map (Timestamp.round unit)))) := by
  intro batch
  have precise : batch.IsPrecise := new.isPrecise.run calls
  refine ⟨precise, ?_, ?_, ?_⟩
  · intro tag
    rcases batch.perform_setPrecision_cases tag with ⟨known, accepted⟩ | ⟨unknown, rejected⟩
    · exact .inr ⟨known, by rw [accepted]⟩
    · rw [not_or, Option.not_isSome_iff_eq_none] at unknown
      exact .inl ⟨unknown, rejected⟩
  · intro empty
    apply sendsAs_points
    rw [Batch.unit?, empty, Precision.unit?_empty]
  · intro nonempty
    obtain ⟨unit, named⟩ := Option.isSome_iff_exists.mp (precise.resolve_left nonempty)
    exact ⟨unit, named, Precision.toNanos_pos named, writer.sendsAs_rounded_to width named⟩

/-- A week is refused, and half a second is still rounded up. -/
theorem write_rounds_unless_precision_empty_refused :
    let p : Point := ⟨[0x6d], .ofFields [("a", .integer 1)], none⟩
    let config : BatchConfig := ⟨"ms", "db", "", ""⟩
    let start : Batch := ⟨[], config⟩
    let calls : List BatchCall := [.addPoint p, .setPrecision "s", .setPrecision "week",
      .changePoint 0 (·.withTime (some 1500000000))]
    let batch := start.run calls
    let writer := create (Recorder.failing [0]) 10
    start.IsNew ∧ batch.config.precision = "s" ∧ batch.config.precision ≠ "" ∧
    batch.points.map (·.time) = [some 1500000000] ∧
    (writer.write .machine batch.toRecords).batch.records.map (·.time) = [some 2000000000] ∧
    ∃ unit, Precision.unit? batch.config.precision = some unit ∧ 0 < unit.toNanos ∧
      writer.SendsAs .machine batch
        (batch.points.map fun p => p.withTime (p.time.map (Timestamp.round unit))) := by
  intro p config start calls batch writer
  have made : Batch.create config = .ok start := rfl
  have new : start.IsNew := .created made
  have nonempty : batch.config.precision ≠ "" := by decide
  obtain ⟨-, -, -, rounds⟩ := write_rounds_unless_precision_empty new calls .machine writer
  exact ⟨new, by decide, nonempty, by decide, by decide, rounds nonempty⟩

end Writer

end SeriesWire
