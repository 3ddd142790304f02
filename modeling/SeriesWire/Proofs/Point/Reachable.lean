import SeriesWire.Point.Build
import SeriesWire.Point.Round
import SeriesWire.Point.Split
import SeriesWire.Proofs.FieldSet.Division

/-! Points as they come about: built from names and values, then given other times, rounded
and divided, any number of times. All of them hold the written form of some fields. -/
namespace SeriesWire.Point

/-- Points that can be had by building one and changing it. -/
inductive Reachable : Point → Prop where
  | build {measurement : String} {tags : List Tag} {fields : List Field}
      {time : Option Timestamp} {p : Point} :
      Point.build measurement tags fields time = .ok p → Reachable p
  | withTime {p : Point} (time : Option Timestamp) : Reachable p → Reachable (p.withTime time)
  | round {p : Point} (unit : Duration) : Reachable p → Reachable (p.round unit)
  | piece {p q : Point} {size : Nat} : Reachable p → q ∈ p.split size → Reachable q

/-- A point is built exactly if every check passes, and is then made of what is written. -/
theorem build_eq_ok_iff {measurement : String} {tags : List Tag} {fields : List Field}
    {time : Option Timestamp} {p : Point} :
    build measurement tags fields time = .ok p ↔
      checkMeasurement measurement = .ok () ∧ tags.forM checkTag = .ok () ∧
      fields.forM checkField = .ok () ∧ fields ≠ [] ∧
      (seriesKey measurement (writtenTags tags)).length ≤ maxKeyLength ∧
      p = ⟨seriesKey measurement (writtenTags tags), .ofFields (writtenFields fields), time⟩ := by
  unfold build
  cases checkMeasurement measurement with
  | error => simp [bind, Except.bind]
  | ok =>
    cases tags.forM checkTag with
    | error => simp [bind, Except.bind]
    | ok =>
      cases fields.forM checkField with
      | error => simp [bind, Except.bind]
      | ok =>
        by_cases empty : fields = []
        · simp [bind, Except.bind, empty]
        · by_cases long : maxKeyLength < (seriesKey measurement (writtenTags tags)).length
          · simp [bind, Except.bind, empty, long, Nat.not_le.mpr long]
          · simp [bind, Except.bind, empty, long, Nat.not_lt.mp long, eq_comm (a := p)]

theorem writtenFields_ne_nil {fields : List Field} (nonempty : fields ≠ []) :
    writtenFields fields ≠ [] := by
  have insert (table : KeyTable FieldValue) (key : String) (value : FieldValue) :
      (table.insert key value).toList ≠ [] := by
    simp only [KeyTable.insert]
    cases table.toList with
    | nil => simp [insertEntry]
    | cons entry entries =>
      unfold insertEntry
      split
      · simp
      · split <;> simp
  rw [← List.dropLast_concat_getLast nonempty]
  simp only [writtenFields, KeyTable.ofList, List.foldl_append, List.foldl_cons, List.foldl_nil]
  exact insert _ _ _

theorem key_time_of_mem_split {p q : Point} {size : Nat} (member : q ∈ p.split size) :
    q.key = p.key ∧ q.time = p.time := by
  unfold split at member
  split at member
  · rw [List.mem_singleton.mp member]
    exact ⟨rfl, rfl⟩
  · split at member
    · rw [List.mem_singleton.mp member]
      exact ⟨rfl, rfl⟩
    · obtain ⟨fields, -, rfl⟩ := List.mem_map.mp member
      exact ⟨rfl, rfl⟩

/-- A point with the key and the time of `p`, and other fields. -/
def withFields (p : Point) (fields : List Field) : Point := { p with fields := .ofFields fields }

theorem length_join_le_room {p : Point} {time : Timestamp} (timed : p.time = some time)
    (size : Nat) (fields : List Field) :
    ((Field.join fields).length : Int) ≤ p.room time size ↔ (p.withFields fields).size ≤ size := by
  simp only [room, Point.size, withFields, timed, Field.join]
  omega

/-- The pieces of a point with a time hold its fields in the groups that fill the room for them. -/
theorem split_eq_groups {p : Point} {fields : List Field} (nonempty : fields ≠ [])
    (written : p.fields = .ofFields fields) {time : Timestamp} (timed : p.time = some time)
    (size : Nat) :
    p.split size = (Field.groups (p.room time size) fields).map p.withFields := by
  have whole : p = p.withFields fields := by rw [withFields, ← written]
  by_cases fits : p.size ≤ size
  · have room : Field.HasRoom (p.room time size) fields :=
      (length_join_le_room timed size fields).mpr (whole ▸ fits)
    rw [Field.groups_eq_singleton nonempty (.inl room), List.map_singleton, ← whole]
    simp only [split, timed, fits, if_true]
  · simp [split, timed, fits, written, FieldSet.divide_ofFields _ nonempty, withFields,
      Function.comp_def]

/-- The pieces of a point hold its fields in groups of neighbours. Each keeps the size, or
has only one field, unless the point has no time. -/
theorem split_groups {p : Point} {fields : List Field} (nonempty : fields ≠ [])
    (written : p.fields = .ofFields fields) (size : Nat) :
    ∃ groups : List (List Field), groups.flatten = fields ∧ (∀ group ∈ groups, group ≠ []) ∧
      p.split size = groups.map p.withFields ∧
      (p.time.isSome → ∀ q ∈ p.split size, q.size ≤ size ∨ q.fields.count = 1) := by
  cases timed : p.time with
  | none =>
    have whole : [p] = [fields].map p.withFields :=
      congrArg (fun set => [Point.mk p.key set p.time]) written
    have same : p.split size = [p] := by simp only [split, timed]
    exact ⟨[fields], by simp, by simpa using nonempty, same.trans whole, by simp⟩
  | some time =>
    have divided := split_eq_groups nonempty written timed size
    have grouped := Field.groups_grouped (p.room time size) nonempty
    refine ⟨_, grouped.flatten, grouped.nonempty, divided, ?_⟩
    rintro - q member
    rw [divided] at member
    obtain ⟨group, found, rfl⟩ := List.mem_map.mp member
    rcases grouped.allowed group found with fits | ⟨field, rfl⟩
    · exact .inl ((length_join_le_room timed size group).mp fits)
    · exact .inr (FieldSet.count_ofFields [field])

theorem Reachable.fields_eq {p : Point} (reachable : Reachable p) :
    ∃ fields : List Field, fields ≠ [] ∧ p.fields = .ofFields fields := by
  induction reachable with
  | build built =>
    obtain ⟨-, -, -, nonempty, -, rfl⟩ := build_eq_ok_iff.mp built
    exact ⟨_, writtenFields_ne_nil nonempty, rfl⟩
  | withTime _ _ ih => exact ih
  | round _ _ ih => exact ih
  | piece _ member ih =>
    obtain ⟨fields, nonempty, written⟩ := ih
    obtain ⟨groups, -, begun, divided, -⟩ := split_groups nonempty written _
    rw [divided] at member
    obtain ⟨group, found, rfl⟩ := List.mem_map.mp member
    exact ⟨group, begun group found, rfl⟩

end SeriesWire.Point
