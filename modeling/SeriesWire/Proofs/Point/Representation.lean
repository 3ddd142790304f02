import SeriesWire.Proofs.Escape
import SeriesWire.Proofs.FieldSet.Slices
import SeriesWire.Proofs.Point.Reachable
import SeriesWire.Proofs.Text.Utf8

/-! What holds of every point that can come about, pieces of pieces included. Its key is there
and not too long, its fields are delimited, and so no index, slice or difference that a division
needs is ever out of range, whatever the size. The size told of a point is that of its line. -/
namespace SeriesWire

namespace Point

/-- A division by indices, with every one of them and every difference checked. -/
def split? (size : Nat) (p : Point) : Option (List Point) :=
  if p.time.isNone ∨ p.size ≤ size then some [p]
  else do
    let behindKey ← difference? p.size p.key.length
    let behindFields ← difference? behindKey p.fields.bytes.length
    let timeLength ← difference? behindFields 2
    let parts ← p.fields.divide? (size - (p.key.length + timeLength + 2 : Nat))
    some (parts.map fun fields => { p with fields })

/-- The parts of a point by themselves. -/
structure Sound (p : Point) : Prop where
  keyed : p.key ≠ []
  short : p.key.length ≤ 65535
  delimited : p.fields.Delimited

theorem seriesKey_ne_nil {measurement : String} (named : checkMeasurement measurement = .ok ())
    (tags : List Tag) : seriesKey measurement tags ≠ [] := by
  have nonempty : measurement.isEmpty = false := by
    cases empty : measurement.isEmpty with
    | false => rfl
    | true =>
      rw [checkMeasurement, if_pos empty] at named
      cases named
  intro empty
  exact Escape.escape_ne_nil (Utf8.encode_ne_nil nonempty) (List.append_eq_nil_iff.mp empty).1

theorem Reachable.key_bounds {p : Point} (reachable : Reachable p) :
    p.key ≠ [] ∧ p.key.length ≤ 65535 := by
  induction reachable with
  | build built =>
    obtain ⟨named, -, -, -, short, rfl⟩ := build_eq_ok_iff.mp built
    exact ⟨seriesKey_ne_nil named _, short⟩
  | withTime _ _ ih => exact ih
  | round _ _ ih => exact ih
  | piece _ member ih => rwa [(key_time_of_mem_split member).1]

theorem Reachable.sound {p : Point} (reachable : Reachable p) : p.Sound := by
  obtain ⟨fields, nonempty, written⟩ := reachable.fields_eq
  obtain ⟨keyed, short⟩ := reachable.key_bounds
  exact ⟨keyed, short, written ▸ FieldSet.delimited_ofFields nonempty⟩

theorem split?_eq {p : Point} {fields : List Field} (nonempty : fields ≠ [])
    (written : p.fields = .ofFields fields) (size : Nat) :
    p.split? size = some (p.split size) := by
  cases timed : p.time with
  | none => simp [split?, split, timed]
  | some time =>
    by_cases fits : p.size ≤ size
    · simp [split?, split, timed, fits]
    · have whole : p.size = p.key.length +
          (p.fields.bytes.length + (2 + (Timestamp.encode time).length)) := by
        simp only [Point.size, timed]
        omega
      have divided := FieldSet.divide?_ofFields (p.room time size) nonempty
      rw [← written] at divided
      simp only [room] at divided
      simp only [split?, split, timed, fits, Option.isNone_some, Bool.false_eq_true, or_self,
        if_false, room]
      simp only [whole, difference?_add, divided, Option.bind_eq_bind, Option.bind_some]

theorem room_bounds {p : Point} {time : Timestamp} (timed : p.time = some time) {size : Nat}
    (small : size < p.size) : -(p.size : Int) ≤ p.room time size ∧ p.room time size < p.size := by
  have whole : p.size = p.key.length + 1 + p.fields.bytes.length +
      (1 + (Timestamp.encode time).length) := by
    simp only [Point.size, timed]
  unfold room
  constructor <;> omega

/-- A point keeps its parts in agreement however it came about. Every index, slice and difference
of a division is in range, and the line is put behind what a buffer holds already, with the
number of octets that was told. -/
theorem Reachable.representation {p : Point} (reachable : Reachable p) :
    p.Sound ∧
    (∀ index ≤ p.fields.count, (p.fields.start? index).isSome) ∧
    (∀ first last, first < last → last ≤ p.fields.count → (p.fields.part? first last).isSome) ∧
    (∀ size, p.split? size = some (p.split size)) ∧
    (∀ time size, p.time = some time → size < p.size →
      -(p.size : Int) ≤ p.room time size ∧ p.room time size < p.size) ∧
    p.line.length = p.size ∧
    ∀ buffer : Array UInt8, (p.appendTo buffer).toList = buffer.toList ++ p.line ∧
      (p.appendTo buffer).size = buffer.size + p.size := by
  obtain ⟨fields, nonempty, written⟩ := reachable.fields_eq
  have count : p.fields.count = fields.length := by rw [written, FieldSet.count_ofFields]
  refine ⟨reachable.sound, ?_, ?_, split?_eq nonempty written, ?_, p.length_line, ?_⟩
  · intro index inside
    rw [written]
    exact FieldSet.start?_isSome (count ▸ inside)
  · intro first last ordered inside
    rw [written]
    exact FieldSet.part?_isSome ordered (count ▸ inside)
  · intro time size timed small
    exact room_bounds timed small
  · intro buffer
    have appended := p.toList_appendTo buffer
    refine ⟨appended, ?_⟩
    simpa [p.length_line] using congrArg List.length appended

/-- A piece of a piece, with a comma and a quote within its value. -/
theorem Reachable.representation_piece_of_piece :
    let fields : List Field := [("a", .integer 1), ("b", .string ",\""), ("c", .boolean true)]
    let p : Point := ⟨[0x6d], .ofFields fields, some 3⟩
    let q : Point := ⟨[0x6d], .ofFields (fields.take 2), some 3⟩
    let r : Point := ⟨[0x6d], .ofFields [("b", .string ",\"")], some 12⟩
    q ∈ p.split 16 ∧ r ∈ (q.withTime (some 12)).split 16 ∧ Reachable r ∧ r.Sound ∧
    (∀ size, r.split? size = some (r.split size)) ∧ r.line.length = r.size := by
  intro fields p q r
  have built : Point.build "m" [] fields (some 3) = .ok p := rfl
  have piece : q ∈ p.split 16 := by decide
  have pieceOfPiece : r ∈ (q.withTime (some 12)).split 16 := by decide
  have reachable : Reachable r := .piece (.withTime _ (.piece (.build built) piece)) pieceOfPiece
  obtain ⟨sound, -, -, split, -, length, -⟩ := reachable.representation
  exact ⟨piece, pieceOfPiece, reachable, sound, split, length⟩

end Point

end SeriesWire
