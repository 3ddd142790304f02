import SeriesWire.Proofs.Writer.Sending

/-! Messages hold whole lines. Whatever the records are and whatever the sink answers, the
messages of a write are the lines of its batch in order, cut between lines only, so that
a refusal takes away the lines of one message and nothing else. -/
namespace SeriesWire

variable {σ α : Type}

/-- Lines that were handed over together, and why they were refused if they were. -/
structure Shipment where
  lines : List Bytes
  refusal : Option IoError

def Shipment.delivery (shipment : Shipment) : Delivery :=
  ⟨shipment.lines.flatten, shipment.refusal⟩

theorem exists_shipments {groups : List (List Bytes)} {deliveries : List Delivery}
    (made : deliveries.map (·.message) = groups.map List.flatten) :
    ∃ shipments : List Shipment, shipments.map Shipment.lines = groups ∧
      shipments.map Shipment.delivery = deliveries := by
  induction deliveries generalizing groups with
  | nil => exact ⟨[], by simpa using made, rfl⟩
  | cons delivery deliveries ih =>
    obtain ⟨group, groups, rfl, message, made⟩ := List.map_eq_cons_iff.mp made.symm
    obtain ⟨shipments, rfl, rfl⟩ := ih made.symm
    refine ⟨⟨group, delivery.refusal⟩ :: shipments, rfl, ?_⟩
    simp [Shipment.delivery, message]

theorem exists_groups_map {β γ : Type} {f : β → γ} {values : List β} {groups : List (List γ)}
    (become : groups.flatten = values.map f) :
    ∃ sources : List (List β), sources.flatten = values ∧ sources.map (·.map f) = groups := by
  induction groups generalizing values with
  | nil => exact ⟨[], by simpa using become, rfl⟩
  | cons group groups ih =>
    obtain ⟨first, others, rfl, rfl, rest⟩ := List.map_eq_append_iff.mp become.symm
    obtain ⟨sources, rfl, rfl⟩ := ih rest.symm
    exact ⟨first :: sources, rfl, rfl⟩

namespace Writer

variable [Sink σ] [LineRecord α]

theorem write_messages (width : Width) (writer : Writer σ) (batch : RecordBatch α) :
    (writer.write width batch).deliveries.map (·.message) =
      (Packing.ofFrames width writer.payloadSize
        (batch.frames width writer.payloadSize)).groups.map Line.join ∧
    Exchange writer.sink (writer.write width batch).deliveries
      (writer.write width batch).writer.sink := by
  obtain ⟨flushes, final?, full, last, told⟩ := writer.write_tells width batch rfl
  rw [told.deliveries]
  refine ⟨?_, told.exchange⟩
  have lastMessage := congrArg Option.toList last
  simp only [Option.toList_map] at lastMessage
  simp [Packing.groups, full, lastMessage]

/-- The same groups, told by the records that the lines are made of. Where records tell
their size, only a single line may be too large for a message. -/
theorem write_groups (width : Width) (writer : Writer σ) (batch : RecordBatch α) :
    ∃ groups : List (List α), groups.flatten = batch.pieces width writer.payloadSize ∧
      (∀ group ∈ groups, group ≠ []) ∧
      (writer.write width batch).deliveries.map (·.message) =
        groups.map (·.flatMap LineRecord.wireLine) ∧
      (width = .unbounded →
        (∀ record : α, LineRecord.size record = (LineRecord.line record).length) →
        ∀ group ∈ groups, (group.flatMap LineRecord.wireLine).length ≤ writer.payloadSize ∨
          ∃ piece, group = [piece]) := by
  let packing := Packing.ofFrames width writer.payloadSize (batch.frames width writer.payloadSize)
  have lines : packing.groups.flatten =
      (batch.pieces width writer.payloadSize).map Line.ofRecord := by
    rw [← RecordBatch.lines_frames]
    exact Packing.ofFrames_flatten _ _ _
  obtain ⟨groups, flatten, same⟩ := exists_groups_map lines
  have among : ∀ group ∈ groups, group.map Line.ofRecord ∈ packing.groups := by
    intro group member
    rw [← same]
    exact List.mem_map_of_mem member
  have joined (group : List α) :
      Line.join (group.map Line.ofRecord) = group.flatMap LineRecord.wireLine := by
    simp [Line.join, List.flatMap_map, Line.terminated_ofRecord]
  refine ⟨groups, flatten, ?_, ?_, ?_⟩
  · rintro group member rfl
    exact Packing.ofFrames_groups_ne_nil _ _ _ _ (among [] member) rfl
  · rw [(writer.write_messages width batch).1, ← same, List.map_map]
    exact List.map_congr_left fun group _ => joined group
  · rintro rfl sized group member
    rcases Packing.ofFrames_groups_fit _ _ (RecordBatch.lines_sized sized _ _ batch) _
      (among group member) with fits | ⟨line, single⟩
    · exact .inl (joined group ▸ fits)
    · obtain ⟨piece, rfl, -⟩ := List.map_eq_singleton_iff.mp single
      exact .inr ⟨piece, rfl⟩

theorem write_shipments (width : Width) (writer : Writer σ) (batch : RecordBatch α) :
    ∃ shipments : List Shipment,
      shipments.flatMap Shipment.lines = batch.wireLines width writer.payloadSize ∧
      (∀ shipment ∈ shipments, shipment.lines ≠ []) ∧
      (writer.write width batch).deliveries = shipments.map Shipment.delivery := by
  let packing := Packing.ofFrames width writer.payloadSize (batch.frames width writer.payloadSize)
  have made : (writer.write width batch).deliveries.map (·.message) =
      (packing.groups.map (·.map Line.terminated)).map List.flatten := by
    rw [(writer.write_messages width batch).1, List.map_map]
    exact List.map_congr_left fun group _ => Line.join_eq_flatten group
  obtain ⟨shipments, lines, deliveries⟩ := exists_shipments made
  refine ⟨shipments, ?_, ?_, deliveries.symm⟩
  · have flatten : packing.groups.flatten = _ := Packing.ofFrames_flatten _ _ _
    rw [List.flatMap_def, lines, ← List.map_flatten, flatten, RecordBatch.wireLines_eq]
  · intro shipment member
    have among := List.mem_map_of_mem (f := Shipment.lines) member
    rw [lines] at among
    obtain ⟨group, member, same⟩ := List.mem_map.mp among
    have nonempty := Packing.ofFrames_groups_ne_nil _ _ _ group member
    simpa [← same] using nonempty

end Writer

end SeriesWire
