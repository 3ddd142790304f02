import SeriesWire.Proofs.KeyTable.LastValues
import SeriesWire.Proofs.Point.Reachable

/-! Dividing a point is building smaller ones. Every piece is the point that the same
measurement and tags make with some of the fields, and no field is encoded again for it. -/
namespace SeriesWire.Point

/-- `p` with other times, any number of times set or rounded. -/
inductive Retimed (p : Point) : Point → Prop where
  | unchanged : Retimed p p
  | withTime {q : Point} (time : Option Timestamp) : Retimed p q → Retimed p (q.withTime time)
  | round {q : Point} (unit : Duration) : Retimed p q → Retimed p (q.round unit)

theorem Retimed.eq_withTime {p q : Point} (retimed : Retimed p q) : q = p.withTime q.time := by
  induction retimed with
  | unchanged => rfl
  | withTime time _ ih =>
    rw [ih]
    rfl
  | round unit _ ih =>
    rw [ih]
    rfl

theorem forM_eq_ok_iff {ε ι : Type} {check : ι → Except ε Unit} {values : List ι} :
    values.forM check = .ok () ↔ ∀ value ∈ values, check value = .ok () := by
  induction values with
  | nil => simp [List.forM, pure, Except.pure]
  | cons value values ih =>
    rw [List.forall_mem_cons, ← ih]
    change (check value >>= fun _ => values.forM check) = .ok () ↔ _
    cases check value <;> simp [bind, Except.bind]

section

variable {measurement : String} {tags : List Tag} {fields : List Field}
  {time : Option Timestamp} {p q : Point}

/-- What is written of some fields can be built again with the same measurement and tags,
also in part and with another time. -/
theorem build_of_sublist (built : build measurement tags fields time = .ok p)
    {group : List Field} (part : group.Sublist (writtenFields fields)) (nonempty : group ≠ [])
    (other : Option Timestamp) :
    build measurement tags group other =
      .ok ⟨p.key, .ofFields group, other⟩ := by
  obtain ⟨named, tagged, checked, -, short, rfl⟩ := build_eq_ok_iff.mp built
  have ascending : Ascending group := List.Pairwise.sublist part (KeyTable.ofList fields).ascending
  have checkedAgain : group.forM checkField = .ok () := by
    refine forM_eq_ok_iff.mpr ?_
    intro field member
    exact forM_eq_ok_iff.mp checked field (KeyTable.mem_of_mem_ofList (part.subset member))
  have same : writtenFields group = group := KeyTable.toList_ofList ascending
  refine build_eq_ok_iff.mpr ⟨named, tagged, checkedAgain, nonempty, short, ?_⟩
  rw [same]

theorem Retimed.fields_eq (built : build measurement tags fields time = .ok p)
    (retimed : Retimed p q) : q.fields = .ofFields (writtenFields fields) := by
  obtain ⟨-, -, -, -, -, rfl⟩ := build_eq_ok_iff.mp built
  rw [retimed.eq_withTime]
  rfl

/-- The pieces of a point are the points built from its fields in groups of neighbours. -/
theorem split_eq_build_groups (built : build measurement tags fields time = .ok p)
    (retimed : Retimed p q) (size : Nat) :
    q.split size ≠ [] ∧
    (∃ groups : List (List Field), IsLastValues fields groups.flatten ∧
      (∀ group ∈ groups, group ≠ []) ∧
      (q.split size).map .ok = groups.map (build measurement tags · q.time)) ∧
    (∀ piece ∈ q.split size, piece.key = p.key ∧ piece.time = q.time) ∧
    (q.time = none → q.split size = [q]) := by
  have written := retimed.fields_eq built
  have nonempty : writtenFields fields ≠ [] :=
    writtenFields_ne_nil (build_eq_ok_iff.mp built).2.2.2.1
  have key : q.key = p.key := by
    rw [retimed.eq_withTime]
    rfl
  obtain ⟨groups, flatten, begun, divided, -⟩ := split_groups nonempty written size
  refine ⟨?_, ⟨groups, ?_, begun, ?_⟩, ?_, ?_⟩
  · rw [divided]
    intro noPieces
    rw [List.map_eq_nil_iff.mp noPieces] at flatten
    exact nonempty flatten.symm
  · rw [flatten]
    exact KeyTable.isLastValues_ofList fields
  · rw [divided, List.map_map]
    refine List.map_congr_left fun group member => ?_
    have part : group.Sublist (writtenFields fields) :=
      flatten ▸ List.sublist_flatten_of_mem member
    rw [build_of_sublist built part (begun group member), ← key]
    rfl
  · rw [divided]
    intro piece member
    obtain ⟨group, -, rfl⟩ := List.mem_map.mp member
    exact ⟨key, rfl⟩
  · intro untimed
    simp only [split, untimed]

end

/-- A comma and a quote within a value do not cut it. The first two fields fit into a piece,
the third is alone, and the time of all is the rounded one. -/
theorem split_eq_build_groups_two :
    let fields : List Field := [("c", .boolean true), ("b", .string ",\""), ("a", .integer 1)]
    let p : Point := ⟨[0x6d], .ofFields fields.reverse, some 7⟩
    let q := (p.withTime (some 3)).round ⟨0, 2⟩
    build "m" [] fields (some 7) = .ok p ∧ Retimed p q ∧ q.time = some 4 ∧
    (q.split 16).map (·.fields.count) = [2, 1] ∧ q.split 16 ≠ [] ∧
    (∃ groups : List (List Field), IsLastValues fields groups.flatten ∧
      (∀ group ∈ groups, group ≠ []) ∧
      (q.split 16).map .ok = groups.map (build "m" [] · q.time)) ∧
    (∀ piece ∈ q.split 16, piece.key = p.key ∧ piece.time = q.time) := by
  intro fields p q
  have built : build "m" [] fields (some 7) = .ok p := rfl
  have retimed : Retimed p q := .round _ (.withTime _ .unchanged)
  obtain ⟨nonempty, groups, same, -⟩ := split_eq_build_groups built retimed 16
  exact ⟨built, retimed, by decide, by decide, nonempty, groups, same⟩

end SeriesWire.Point
