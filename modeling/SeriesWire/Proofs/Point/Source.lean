import SeriesWire.Point.Build
import SeriesWire.Proofs.KeyTable.LastValues

/-! What points are built from, and what of it counts. Entries that a later one replaces
say nothing, and neither do tags without a value. -/
namespace SeriesWire

structure PointSource where
  measurement : String
  tags : List Tag
  fields : List Field
  time : Option Timestamp

namespace PointSource

def point (source : PointSource) : Except PointError Point :=
  Point.build source.measurement source.tags source.fields source.time

/-- The value that counts for a tag key. -/
def tag? (source : PointSource) (key : String) : Option String :=
  (lastValue? key source.tags).filter (!·.isEmpty)

/-- The value that counts for a field key. -/
def field? (source : PointSource) (key : String) : Option FieldValue :=
  lastValue? key source.fields

structure SameSeries (first second : PointSource) : Prop where
  measurement : first.measurement = second.measurement
  tag? : ∀ key, first.tag? key = second.tag? key

structure SameRecord (first second : PointSource) : Prop extends SameSeries first second where
  field? : ∀ key, first.field? key = second.field? key
  time : first.time = second.time

theorem mem_writtenTags {source : PointSource} {key value : String} :
    (key, value) ∈ Point.writtenTags source.tags ↔ source.tag? key = some value := by
  have last := (KeyTable.isLastValues_ofList source.tags).mem_iff key value
  rw [Point.writtenTags, List.mem_filter, last, tag?, Option.filter_eq_some_iff]

theorem mem_writtenFields {source : PointSource} {key : String} {value : FieldValue} :
    (key, value) ∈ Point.writtenFields source.fields ↔ source.field? key = some value :=
  (KeyTable.isLastValues_ofList source.fields).mem_iff key value

theorem field?_eq {first second : PointSource}
    (same : Point.writtenFields first.fields = Point.writtenFields second.fields) (key : String) :
    first.field? key = second.field? key := by
  refine Option.ext fun value => ?_
  rw [← mem_writtenFields, ← mem_writtenFields, same]

end PointSource

end SeriesWire
