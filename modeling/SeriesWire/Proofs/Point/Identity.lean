import SeriesWire.Proofs.Point.KeyEnd
import SeriesWire.Proofs.Point.Line

/-! What a line tells of its record. The time can always be read back from the octets, and so can
the fields once it is known where the series key ends. A name that ends in a backslash can be
taken for a part of a longer one that holds the separator, and two records can then have one key
or one line. Nothing else makes them the same. -/
namespace SeriesWire

namespace PointSource

variable {first second source : PointSource} {p q : Point}

theorem point_eq (built : source.point = .ok p) : source.fields ≠ [] ∧
    p = ⟨source.seriesKey, .ofFields (Point.writtenFields source.fields), source.time⟩ := by
  obtain ⟨-, -, -, nonempty, -, made⟩ := Point.build_eq_ok_iff.mp built
  exact ⟨nonempty, made⟩

/-- The octets of the fields of a point tell the fields that count, for any keys and texts. -/
theorem fields_eq_of_bytes_eq (built : first.point = .ok p) (builtToo : second.point = .ok q)
    (same : p.fields.bytes = q.fields.bytes) :
    (∃ kept, IsLastValues first.fields kept ∧ IsLastValues second.fields kept ∧
      p.fields = .ofFields kept) ∧
    (∀ key, first.field? key = second.field? key) ∧ p.fields.ends = q.fields.ends := by
  obtain ⟨nonempty, rfl⟩ := point_eq built
  obtain ⟨nonemptyToo, rfl⟩ := point_eq builtToo
  have kept : Point.writtenFields first.fields = Point.writtenFields second.fields :=
    Field.join_injective (Point.writtenFields_ne_nil nonempty)
      (Point.writtenFields_ne_nil nonemptyToo) same
  have lastToo : IsLastValues second.fields (Point.writtenFields second.fields) :=
    KeyTable.isLastValues_ofList second.fields
  refine ⟨⟨_, KeyTable.isLastValues_ofList first.fields, ?_, rfl⟩, field?_eq kept, ?_⟩
  · rw [← kept] at lastToo
    exact lastToo
  · rw [kept]

/-- Keys that end in a backslash or hold a quote, a text with both, and a field that is replaced. -/
theorem fields_eq_of_bytes_eq_replaced :
    let kept : List Field := [("a\\", .string "=\",\n\\"), ("b\"", .string "\\")]
    let first : PointSource := ⟨"m", [], ("a\\", .integer 1) :: kept.reverse, none⟩
    let second : PointSource := ⟨"n", [], kept, some 5⟩
    let p : Point := ⟨[0x6d], .ofFields kept, none⟩
    let q : Point := ⟨[0x6e], .ofFields kept, some 5⟩
    first.point = .ok p ∧ second.point = .ok q ∧ p.fields.bytes = q.fields.bytes ∧
      (∃ kept, IsLastValues first.fields kept ∧ IsLastValues second.fields kept ∧
        p.fields = .ofFields kept) ∧
      (∀ key, first.field? key = second.field? key) ∧ p.fields.ends = q.fields.ends := by
  exact ⟨rfl, rfl, rfl, fields_eq_of_bytes_eq rfl rfl rfl⟩

/-- A name of the first ends in a backslash where another one stands behind it, and the same kind
of name in the second holds the separator between them. -/
def Mistakable (first second : PointSource) : Prop :=
  (Point.writtenTags first.tags ≠ [] ∧ EndsOpen first.measurement ∧
    ',' ∈ second.measurement.toList) ∨
  Tag.Mistakable (Point.writtenTags first.tags) (Point.writtenTags second.tags)
deriving Decidable

section

variable (built : first.point = .ok p) (builtToo : second.point = .ok q) (same : p.line = q.line)

include built builtToo same

end

end PointSource

end SeriesWire
