import SeriesWire.Proofs.Writer.Framing

/-! What a write tells of refusals. A message is flushed while records are put into the buffer;
what is left in it when they end is the final one. As long as no sum is too large for its word,
there is one exactly if the last record has a line, for only a record divided into no parts
leaves nothing behind. -/
namespace SeriesWire

variable {σ α : Type}

theorem Frame.lt_size_of_lines_eq_nil [LineRecord α] {limit : Nat} {batch : RecordBatch α} :
    ∀ frame ∈ batch.frames .unbounded limit, frame.lines = [] → limit < frame.size + 1 := by
  intro frame member empty
  obtain ⟨record, _, rfl⟩ := List.mem_map.mp member
  rw [size_ofRecord]
  exact LineRecord.lt_size_of_oversized (isOversized_of_lines_eq_nil empty)

namespace Writer

variable [Sink σ] [LineRecord α]

theorem last?_isSome (limit : Nat) (batch : RecordBatch α) :
    (Packing.ofFrames .unbounded limit (batch.frames .unbounded limit)).last?.isSome ↔
      ∃ record, batch.rounded.getLast? = some record ∧
        LineRecord.pieces .unbounded limit record ≠ [] := by
  rw [Packing.ofFrames_last?_isSome _ Frame.lt_size_of_lines_eq_nil, RecordBatch.frames,
    List.getLast?_map]
  cases batch.rounded.getLast? <;> simp [Frame.lines_ofRecord]

theorem write_goes_on (width : Width) (writer : Writer σ) (batch : RecordBatch α) (count : Nat) :
    ∃ sent later, sent ++ later = batch.wireLines width writer.payloadSize ∧
      ((writer.write width batch).deliveries.take count).flatMap (·.message) = sent.flatten ∧
      ((writer.write width batch).deliveries.drop count).flatMap (·.message) = later.flatten := by
  obtain ⟨shipments, lines, -, deliveries⟩ := writer.write_shipments width batch
  have flatten (part : List Shipment) :
      (part.map Shipment.delivery).flatMap (·.message) = (part.flatMap (·.lines)).flatten := by
    simp [List.flatMap_def, Shipment.delivery, List.flatten_flatten,
      Function.comp_def]
  refine ⟨(shipments.take count).flatMap (·.lines), (shipments.drop count).flatMap (·.lines),
    ?_, ?_, ?_⟩
  · rw [← List.flatMap_append, List.take_append_drop, lines]
  · rw [deliveries, ← List.map_take, flatten]
  · rw [deliveries, ← List.map_drop, flatten]

/-- A write succeeds exactly if nothing was refused, and otherwise fails with the refusal
that came last. Each refused message that was handed over before the end of the records is noted
with its length and its error; the final one, which is what is then left in the buffer, is not.
Behind every message the lines that are left go out. -/
theorem write_tells_refusals (width : Width) (writer : Writer σ) (batch : RecordBatch α) :
    let report := writer.write width batch
    let filled := (writer.fill width batch).1
    Exchange writer.sink report.deliveries report.writer.sink ∧
    (report.result = .ok () ↔ ∀ delivery ∈ report.deliveries, delivery.refusal = none) ∧
    (∀ failure, report.result = .error failure →
      ∃ cause, failure = .writeFailed cause ∧
        (report.deliveries.filterMap (·.refusal)).getLast? = some cause) ∧
    (∃ (flushes : List Delivery) (final? : Option Delivery),
      report.deliveries = flushes ++ final?.toList ∧
      flushes = filled.sending.deliveries.reverse ∧
      final?.map (·.message) = filled.rest? ∧
      (width = .unbounded → (final?.isSome ↔ ∃ record, batch.rounded.getLast? = some record ∧
        LineRecord.pieces width writer.payloadSize record ≠ [])) ∧
      report.notices = flushes.filterMap (fun delivery =>
        delivery.refusal.map (.sendFailed delivery.message.length)) ∧
      report.notices.map (fun notice => (notice.level, notice.text)) =
        flushes.filterMap (fun delivery => delivery.refusal.map fun cause => (.warn,
          s!"failed to send {delivery.message.length} bytes of line protocol data: {cause.message}"))) ∧
    ∀ count, ∃ sent later, sent ++ later = batch.wireLines width writer.payloadSize ∧
      (report.deliveries.take count).flatMap (·.message) = sent.flatten ∧
      (report.deliveries.drop count).flatMap (·.message) = later.flatten := by
  intro report filled
  obtain ⟨flushes, final?, -, last, told⟩ := writer.write_tells width batch rfl
  have result : report.result = ClientError.outcome (Delivery.lastRefusal? report.deliveries) :=
    writer.result_write width batch
  refine ⟨(writer.write_messages width batch).2, ?_, ?_, ⟨flushes, final?, told.deliveries,
    told.flushed, told.left, ?_, told.notices, ?_⟩, writer.write_goes_on width batch⟩
  · rw [← Delivery.lastRefusal?_eq_none, result]
    cases Delivery.lastRefusal? report.deliveries <;> simp [ClientError.outcome]
  · intro failure failed
    cases refused : Delivery.lastRefusal? report.deliveries with
    | none => simp [result, refused, ClientError.outcome] at failed
    | some cause =>
      refine ⟨cause, ?_, refused⟩
      simpa [result, refused, ClientError.outcome] using failed.symm
  · rintro rfl
    rw [← last?_isSome, ← Option.isSome_map (f := Line.join), ← last, Option.isSome_map]
  · rw [told.notices, List.map_filterMap]
    exact congrArg (List.filterMap · flushes) (funext Delivery.text_notice?)

end Writer
end SeriesWire
