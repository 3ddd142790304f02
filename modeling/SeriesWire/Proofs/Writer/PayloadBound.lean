import SeriesWire.Proofs.Point.Reachable
import SeriesWire.Proofs.Writer.Framing
import SeriesWire.Proofs.Writer.Words

/-! Points keep the payload size. A message is too large only if it is one line that is too
large by itself, and a point that becomes such a line has no time or one field. -/
namespace SeriesWire

namespace Point

theorem Reachable.roundTo {p : Point} (reachable : Reachable p) (unit? : Option Duration) :
    Reachable (LineRecord.roundTo unit? p) := by
  cases unit? with
  | none => exact reachable
  | some unit => exact reachable.round unit

theorem Reachable.pieces_undivided {p q : Point} {limit : Nat} (reachable : Reachable p)
    (positive : 0 < limit) (piece : q ∈ LineRecord.pieces .unbounded limit p)
    (excess : limit < q.size + 1) :
    q.time = none ∨ q.time.isSome ∧ q.fields.count = 1 := by
  cases oversized : LineRecord.isOversized .unbounded limit p with
  | false =>
    rw [LineRecord.pieces_of_not_oversized oversized, List.mem_singleton] at piece
    subst piece
    have whole : ¬(LineRecord.hasTime q = true ∧ limit < q.size + 1) := fun both =>
      Bool.false_ne_true (oversized.symm.trans (by
        rw [LineRecord.isOversized, LineRecord.octets, both.1]
        exact decide_eq_true both.2))
    exact .inl (Option.not_isSome_iff_eq_none.mp fun timed => whole ⟨timed, excess⟩)
  | true =>
    rw [LineRecord.pieces_of_oversized oversized] at piece
    change q ∈ p.split (limit - 1) at piece
    obtain ⟨timed, -⟩ := Bool.and_eq_true_iff.mp oversized
    change p.time.isSome = true at timed
    obtain ⟨fields, nonempty, written⟩ := reachable.fields_eq
    obtain ⟨groups, -, -, divided, bound⟩ := split_groups nonempty written (limit - 1)
    have single : q.fields.count = 1 := by
      rcases bound timed q piece with fits | single
      · omega
      · exact single
    rw [divided] at piece
    obtain ⟨group, -, rfl⟩ := List.mem_map.mp piece
    exact .inr ⟨timed, single⟩

end Point

/-- Points in groups that are sent as messages. A message is too large only if it is one line
that is too large by itself, of a point without a time or with a single field. -/
structure PayloadBound (limit : Nat) (groups : List (List Point)) : Prop where
  fits : ∀ group ∈ groups, (group.flatMap LineRecord.wireLine).length ≤ limit ∨
    ∃ p, group = [p] ∧ limit < (LineRecord.wireLine p).length ∧
      (p.time = none ∨ p.time.isSome ∧ p.fields.count = 1)
  alone : ∀ group ∈ groups, ∀ p ∈ group, limit < (LineRecord.wireLine p).length → group = [p]

theorem Point.length_wireLine (p : Point) : (LineRecord.wireLine p).length = p.size + 1 := by
  simp [LineRecord.wireLine, LineRecord.line, Point.length_line]

theorem length_wireLine_le {group : List Point} {p : Point} (member : p ∈ group) :
    (LineRecord.wireLine p).length ≤ (group.flatMap LineRecord.wireLine).length := by
  rw [List.flatMap_def]
  exact (List.sublist_flatten_of_mem (List.mem_map_of_mem member)).length_le

namespace Writer

variable {σ : Type} [Sink σ]

/-- What goes out for points keeps the payload size. Zero counts as one. In memory this holds
of sums of words as well. -/
theorem write_points_keep_payload_size (sink : σ) (payloadSize : Nat) (batch : RecordBatch Point)
    (reachable : ∀ p ∈ batch.records, Point.Reachable p) :
    let report := (create sink payloadSize).write .unbounded batch
    Exchange sink report.deliveries report.writer.sink ∧
    (∃ groups : List (List Point),
      groups.flatten = batch.pieces .unbounded (max payloadSize 1) ∧
      report.deliveries.map (·.message) = groups.map (·.flatMap LineRecord.wireLine) ∧
      PayloadBound (max payloadSize 1) groups) ∧
    (batch.FitsMemory (max payloadSize 1) →
      (create sink payloadSize).write .machine batch = report) := by
  intro report
  have sized : ∀ p : Point, LineRecord.size p = (LineRecord.line p).length :=
    fun p => p.length_line.symm
  obtain ⟨groups, flatten, -, messages, fit⟩ :=
    (create sink payloadSize).write_groups .unbounded batch
  change groups.flatten = batch.pieces .unbounded (max payloadSize 1) at flatten
  have positive : 0 < max payloadSize 1 := Nat.lt_of_lt_of_le Nat.one_pos (Nat.le_max_right _ _)
  have undivided : ∀ group ∈ groups, ∀ p ∈ group,
      max payloadSize 1 < (LineRecord.wireLine p).length →
        p.time = none ∨ p.time.isSome ∧ p.fields.count = 1 := by
    intro group member p inside excess
    have piece : p ∈ batch.pieces .unbounded (max payloadSize 1) := by
      rw [← flatten]
      exact List.mem_flatten.mpr ⟨group, member, inside⟩
    obtain ⟨source, rounded, piece⟩ := List.mem_flatMap.mp piece
    obtain ⟨record, taken, rfl⟩ := List.mem_map.mp rounded
    rw [Point.length_wireLine] at excess
    exact ((reachable record taken).roundTo _).pieces_undivided positive piece excess
  have whole : ∀ group ∈ groups, (group.flatMap LineRecord.wireLine).length ≤ max payloadSize 1 ∨
      ∃ p, group = [p] := fit rfl sized
  have bound : PayloadBound (max payloadSize 1) groups := by
    constructor
    · intro group member
      rcases whole group member with fits | ⟨p, rfl⟩
      · exact .inl fits
      · by_cases excess : max payloadSize 1 < (LineRecord.wireLine p).length
        · exact .inr ⟨p, rfl, excess, undivided [p] member p (by simp) excess⟩
        · exact .inl (by simpa using Nat.le_of_not_lt excess)
    · intro group member p inside excess
      rcases whole group member with fits | ⟨q, rfl⟩
      · have part := length_wireLine_le inside
        omega
      · rw [List.mem_singleton.mp inside]
  refine ⟨((create sink payloadSize).write_messages .unbounded batch).2,
    ⟨groups, flatten, messages, bound⟩, fun fits => ?_⟩
  exact write_machine_eq sized (fits : batch.FitsMemory (create sink payloadSize).payloadSize)

/-- A point of two fields is divided; without a time it is not, and stands alone. -/
theorem write_points_keep_payload_size_nine :
    let p : Point := ⟨[0x6d], .ofFields [("a", .integer 1), ("b", .integer 2)], some 1⟩
    let batch : RecordBatch Point := ⟨"", [p, p.withTime none]⟩
    let sink := Recorder.failing [1]
    ((create sink 9).write .unbounded batch).deliveries.map (·.message.length) = [9, 9, 12] ∧
    (∀ q ∈ batch.records, Point.Reachable q) ∧
    Exchange sink ((create sink 9).write .unbounded batch).deliveries
      ((create sink 9).write .unbounded batch).writer.sink ∧
    (∃ groups : List (List Point), groups.flatten = batch.pieces .unbounded (max 9 1) ∧
      ((create sink 9).write .unbounded batch).deliveries.map (·.message) =
        groups.map (·.flatMap LineRecord.wireLine) ∧
      PayloadBound (max 9 1) groups) ∧
    batch.FitsMemory (max 9 1) ∧
    (create sink 9).write .machine batch = (create sink 9).write .unbounded batch := by
  intro p batch sink
  have built : Point.Reachable p := .build (rfl : Point.build "m" []
    [("a", .integer 1), ("b", .integer 2)] (some 1) = .ok p)
  have reachable : ∀ q ∈ batch.records, Point.Reachable q := by
    simp only [batch, List.mem_cons, List.not_mem_nil, or_false, forall_eq_or_imp, forall_eq]
    exact ⟨built, built.withTime none⟩
  have fits : batch.FitsMemory (max 9 1) := ⟨by decide, by decide, by decide⟩
  obtain ⟨exchange, bounded, inWords⟩ := write_points_keep_payload_size sink 9 batch reachable
  exact ⟨by decide, reachable, exchange, bounded, fits, inWords fits⟩

end Writer

end SeriesWire
