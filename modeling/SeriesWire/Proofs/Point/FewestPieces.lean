import SeriesWire.Proofs.FieldSet.Reading
import SeriesWire.Proofs.Point.Representation
import SeriesWire.Proofs.Point.Words

/-! No division of a point has fewer pieces. A field goes with those before it whenever the line
has room for it, and so no other division that keeps the size gets on further with as many pieces.
A piece is a point that need not be divided again, at whatever place it was cut. -/
namespace SeriesWire.Point

/-- The fields in groups of neighbours that can be lines of at most `size` octets with the key and
the time of `p`. A field by itself may be too large. -/
structure IsDivision (p : Point) (size : Nat) (fields : List Field) (groups : List (List Field)) :
    Prop where
  flatten : groups.flatten = fields
  nonempty : ∀ group ∈ groups, group ≠ []
  fits : ∀ group ∈ groups, 2 ≤ group.length → (p.withFields group).line.length ≤ size

variable {p : Point} {fields : List Field} {time : Timestamp}

theorem IsDivision.grouping (timed : p.time = some time) {size : Nat}
    {groups : List (List Field)} (division : p.IsDivision size fields groups) :
    Grouping.IsGrouping (Field.HasRoom (p.room time size)) fields groups where
  flatten := division.flatten
  nonempty := division.nonempty
  allowed := by
    intro group member
    obtain ⟨field, others, rfl⟩ := List.exists_cons_of_ne_nil (division.nonempty group member)
    by_cases alone : others = []
    · exact .inr ⟨field, by rw [alone]⟩
    · have several : 2 ≤ (field :: others).length :=
        Nat.succ_le_succ (List.length_pos_iff.mpr alone)
      have fits := division.fits _ member several
      rw [length_line] at fits
      exact .inl ((length_join_le_room timed size _).mpr fits)

theorem isDivision_groups (nonempty : fields ≠ []) (timed : p.time = some time) (size : Nat) :
    p.IsDivision size fields (Field.groups (p.room time size) fields) where
  flatten := (Field.groups_grouped _ nonempty).flatten
  nonempty := (Field.groups_grouped _ nonempty).nonempty
  fits := by
    intro group member several
    rcases (Field.groups_grouped _ nonempty).allowed group member with fits | ⟨field, rfl⟩
    · rw [length_line]
      exact (length_join_le_room timed size group).mp fits
    · cases several
      contradiction

/-- A piece is not divided again. -/
theorem split_of_mem_split (nonempty : fields ≠ []) (written : p.fields = .ofFields fields)
    {q : Point} {size : Nat} (timed : p.time = some time) (piece : q ∈ p.split size) :
    q.split size = [q] := by
  rw [split_eq_groups nonempty written timed] at piece
  obtain ⟨group, member, rfl⟩ := List.mem_map.mp piece
  have grouped := Field.groups_grouped (p.room time size) nonempty
  have begun := grouped.nonempty group member
  have timedToo : (p.withFields group).time = some time := timed
  have whole : Field.groups (p.room time size) group = [group] :=
    Field.groups_eq_singleton begun (grouped.allowed group member)
  rw [split_eq_groups begun rfl timedToo]
  exact congrArg (List.map p.withFields) whole

/-- A point with a time is divided into the fewest pieces that keep the size, so far as its single
fields do, and its pieces stay whole; and words of 64 bits are enough to find them. -/
theorem Reachable.split_fewest_pieces (reachable : Reachable p) (timed : p.time = some time)
    (size : Nat) :
    (∀ q ∈ p.split size, q.size ≤ size ∨ q.fields.count = 1) ∧
    (∃ fields : List Field, fields ≠ [] ∧
      (∀ others : List Field, others ≠ [] → (p.fields = .ofFields others ↔ others = fields)) ∧
      (∃ groups, p.IsDivision size fields groups ∧ p.split size = groups.map p.withFields) ∧
      ∀ groups, p.IsDivision size fields groups → (p.split size).length ≤ groups.length) ∧
    (∀ q ∈ p.split size, q.split size = [q]) ∧
    (p.size < 2 ^ 63 → ∀ word : UInt64, word.toNat = size → p.splitWords word = p.split size) := by
  obtain ⟨fields, nonempty, written⟩ := reachable.fields_eq
  have divided := split_eq_groups nonempty written timed size
  have grouped := Field.groups_grouped (p.room time size) nonempty
  refine ⟨?_, ⟨fields, nonempty, ?_, ?_, ?_⟩, ?_, ?_⟩
  · obtain ⟨-, -, -, -, bound⟩ := split_groups nonempty written size
    exact bound (by rw [timed]; rfl)
  · intro others given
    constructor
    · intro spelled
      exact Field.join_injective given nonempty
        (congrArg FieldSet.bytes (spelled.symm.trans written))
    · rintro rfl
      exact written
  · exact ⟨_, isDivision_groups nonempty timed size, divided⟩
  · intro groups division
    rw [divided, List.length_map]
    exact grouped.tight.length_le (Field.hasRoom_hereditary _) grouped.toIsGrouping
      (division.grouping timed)
  · intro q piece
    exact split_of_mem_split nonempty written timed piece
  · rintro short word rfl
    exact splitWords_eq reachable.sound.delimited short word

/-- Two fields fill the size to the last octet, and with one octet less each field goes alone. -/
theorem Reachable.split_fewest_pieces_full :
    let fields : List Field := [("a", .integer 1), ("b", .integer 2), ("c", .string ",\"")]
    let p : Point := ⟨[0x6d], .ofFields fields, some 3⟩
    Reachable p ∧ p.time = some 3 ∧ p.size < 2 ^ 63 ∧
    (p.split 13).map (·.size) = [13, 11] ∧ (p.split 12).length = 3 ∧
    (∀ q ∈ p.split 13, q.size ≤ 13 ∨ q.fields.count = 1) ∧
    (∀ groups, p.IsDivision 13 fields groups → (p.split 13).length ≤ groups.length) ∧
    (∀ q ∈ p.split 13, q.split 13 = [q]) ∧ p.splitWords 13 = p.split 13 := by
  intro fields p
  have built : Point.build "m" [] fields (some 3) = .ok p := rfl
  have reachable : Reachable p := .build built
  have timed : p.time = some 3 := rfl
  have short : p.size < 2 ^ 63 := by decide
  obtain ⟨bound, ⟨spelled, -, unique, -, fewest⟩, whole, words⟩ :=
    reachable.split_fewest_pieces timed 13
  have same : fields = spelled := (unique fields (by simp [fields])).mp rfl
  exact ⟨reachable, timed, short, by decide, by decide, bound, same ▸ fewest, whole,
    words short 13 rfl⟩

end SeriesWire.Point
