import SeriesWire.Proofs.KeyTable.LastEntries
import SeriesWire.Proofs.Point.Faults
import SeriesWire.Proofs.Point.Reachable
import SeriesWire.Proofs.Text.OctetOrder

/-! One form for each record. What a point holds depends on nothing but the measurement, the time
and the last values of the keys, and it is written in the order of the octets of the keys. So the
input can be put in another order, hold replaced entries or be in this form already. -/
namespace SeriesWire.PointSource

variable {source other : PointSource} {p : Point} {tags : List Tag} {fields : List Field}

/-- The tags and the fields that count, every key once, in the order of the octets of the keys. -/
structure Canonical (source : PointSource) (tags : List Tag) (fields : List Field) : Prop where
  tagOrder : tags.Pairwise fun tag later => Utf8.encode tag.1 < Utf8.encode later.1
  tag? : ∀ key value, (key, value) ∈ tags ↔ source.tag? key = some value
  fieldOrder : fields.Pairwise fun field later => Utf8.encode field.1 < Utf8.encode later.1
  field? : ∀ key value, (key, value) ∈ fields ↔ source.field? key = some value

/-- Fields in their order, with a comma between two of them. -/
def spelledFields (fields : List Field) : Bytes :=
  [Octet.comma].intercalate (fields.map fun field =>
    Escape.tag (Utf8.encode field.1) ++ Octet.equals :: field.2.encode)

/-- The point holds the octets of these entries in their order, with every end of a field. -/
structure Spelled (p : Point) (measurement : String) (tags : List Tag) (fields : List Field) :
    Prop where
  key : p.key = Escape.measurement (Utf8.encode measurement) ++ tags.flatMap fun tag =>
    Octet.comma :: Escape.tag (Utf8.encode tag.1) ++ Octet.equals :: Escape.tag (Utf8.encode tag.2)
  bytes : p.fields.bytes = spelledFields fields
  ends : p.fields.ends =
    (List.range fields.length).map fun i => (spelledFields (fields.take (i + 1))).length

theorem ascending_writtenTags (tags : List Tag) : Ascending (Point.writtenTags tags) :=
  List.Pairwise.filter _ (KeyTable.ofList tags).ascending

theorem ascending_writtenFields (fields : List Field) : Ascending (Point.writtenFields fields) :=
  (KeyTable.ofList fields).ascending

theorem canonical_written (source : PointSource) :
    source.Canonical (Point.writtenTags source.tags) (Point.writtenFields source.fields) where
  tagOrder := (ascending_writtenTags source.tags).octets
  tag? _ _ := mem_writtenTags
  fieldOrder := (ascending_writtenFields source.fields).octets
  field? _ _ := mem_writtenFields

theorem SameRecord.writtenTags_eq (same : SameRecord source other) :
    Point.writtenTags other.tags = Point.writtenTags source.tags := by
  refine (ascending_writtenTags _).eq_of_mem_iff (ascending_writtenTags _) ?_
  rintro ⟨key, value⟩
  rw [mem_writtenTags, mem_writtenTags, same.tag?]

theorem SameRecord.writtenFields_eq (same : SameRecord source other) :
    Point.writtenFields other.fields = Point.writtenFields source.fields := by
  refine (ascending_writtenFields _).eq_of_mem_iff (ascending_writtenFields _) ?_
  rintro ⟨key, value⟩
  rw [mem_writtenFields, mem_writtenFields, same.field?]

/-- An input that says the same, and in which no entry has a fault, makes the same point. -/
theorem point_of_sameRecord (built : source.point = .ok p) (same : SameRecord source other)
    (tagged : ∀ tag ∈ other.tags, tag.Valid) (filled : ∀ field ∈ other.fields, field.Valid) :
    other.point = .ok p := by
  obtain ⟨valid, rfl⟩ := point_eq_ok_iff.mp built
  have key : Point.seriesKey other.measurement (Point.writtenTags other.tags) =
      Point.seriesKey source.measurement (Point.writtenTags source.tags) := by
    rw [same.measurement, same.writtenTags_eq]
  refine point_eq_ok_iff.mpr ⟨?_, ?_⟩
  · constructor
    · exact same.measurement ▸ valid.named
    · exact same.measurement ▸ valid.measurement
    · exact tagged
    · exact filled
    · intro empty
      apply Point.writtenFields_ne_nil valid.nonempty
      rw [← same.writtenFields_eq, empty]
      rfl
    · rw [← length_seriesKey, key, length_seriesKey]
      exact valid.short
  · rw [key, same.writtenFields_eq, same.time]

/-- Entries with the same last values say the same. -/
theorem sameRecord_of_lastValue? (tagged : ∀ key, lastValue? key tags = lastValue? key source.tags)
    (filled : ∀ key, lastValue? key fields = lastValue? key source.fields) :
    SameRecord source { source with tags, fields } where
  measurement := rfl
  tag? key := congrArg (Option.filter fun value : String => !value.isEmpty) (tagged key).symm
  field? key := (filled key).symm
  time := rfl

theorem sameRecord_written (source : PointSource) :
    SameRecord source { source with
      tags := Point.writtenTags source.tags, fields := Point.writtenFields source.fields } where
  measurement := rfl
  tag? key := by
    have last : lastValue? key (Point.writtenTags source.tags) = source.tag? key := by
      refine Option.ext fun value => ?_
      rw [← mem_writtenTags]
      exact ((ascending_writtenTags source.tags).isLastValues.mem_iff key value).symm
    change source.tag? key =
      (lastValue? key (Point.writtenTags source.tags)).filter fun value => !value.isEmpty
    rw [last, tag?, Option.filter_filter]
    simp
  field? key := by
    refine Option.ext fun value => ?_
    rw [← mem_writtenFields]
    exact (ascending_writtenFields source.fields).isLastValues.mem_iff key value
  time := rfl

theorem point_of_reordered (built : source.point = .ok p) (tagged : Reordered source.tags tags)
    (filled : Reordered source.fields fields) : { source with tags, fields }.point = .ok p := by
  have valid := (point_eq_ok_iff.mp built).1
  have same := sameRecord_of_lastValue? tagged.lastValue?_eq filled.lastValue?_eq
  apply point_of_sameRecord built same
  · exact fun tag member => valid.tags tag ((tagged.mem_iff tag).mp member)
  · exact fun field member => valid.fields field ((filled.mem_iff field).mp member)

/-- A point has one canonical form. Whatever says the same makes the same point, written in the
order of the keys; so do the same entries in another order, with replaced entries among them, or
in the canonical form. -/
theorem point_canonical (built : source.point = .ok p) :
    (∀ other q, SameRecord source other → other.point = .ok q → q = p) ∧
    (∃ tags fields, source.Canonical tags fields ∧
      Spelled p source.measurement tags fields ∧ p.time = source.time ∧
      { source with tags, fields }.point = .ok p) ∧
    (∀ tags fields, Reordered source.tags tags → Reordered source.fields fields →
      { source with tags, fields }.point = .ok p) ∧
    (∀ tags, (source.tags.map Prod.fst).Nodup → tags.Perm source.tags →
      { source with tags }.point = .ok p) ∧
    (∀ fields, (source.fields.map Prod.fst).Nodup → fields.Perm source.fields →
      { source with fields }.point = .ok p) ∧
    (∀ earlier tag later, source.tags = earlier ++ later → tag.Valid →
      tag.1 ∈ later.map Prod.fst → { source with tags := earlier ++ tag :: later }.point = .ok p) ∧
    (∀ earlier field later, source.fields = earlier ++ later → field.Valid →
      field.1 ∈ later.map Prod.fst →
      { source with fields := earlier ++ field :: later }.point = .ok p) := by
  obtain ⟨valid, made⟩ := point_eq_ok_iff.mp built
  refine ⟨?_, ⟨_, _, source.canonical_written, ?_, ?_, ?_⟩, ?_, ?_, ?_, ?_, ?_⟩
  · intro other q same builtToo
    obtain ⟨validToo, -⟩ := point_eq_ok_iff.mp builtToo
    have again := point_of_sameRecord built same validToo.tags validToo.fields
    exact Except.ok.inj (builtToo.symm.trans again)
  · rw [made]
    exact ⟨rfl, rfl, FieldSet.ends_ofFields _⟩
  · rw [made]
  · apply point_of_sameRecord built source.sameRecord_written
    · intro tag member
      exact valid.tags tag (KeyTable.mem_of_mem_ofList (List.mem_of_mem_filter member))
    · exact fun field member => valid.fields field (KeyTable.mem_of_mem_ofList member)
  · exact fun tags fields tagged filled => point_of_reordered built tagged filled
  · exact fun tags distinct perm => point_of_reordered built (.of_perm distinct perm) (.refl _)
  · exact fun fields distinct perm => point_of_reordered built (.refl _) (.of_perm distinct perm)
  · intro earlier tag later whole checked replaced
    have last (key : String) :
        lastValue? key (earlier ++ tag :: later) = lastValue? key source.tags := by
      rw [whole, lastValue?_replaced replaced]
    apply point_of_sameRecord built (sameRecord_of_lastValue? last fun _ => rfl)
    · intro other member
      rcases List.mem_cons.mp (List.perm_middle.mem_iff.mp member) with rfl | given
      · exact checked
      · exact valid.tags other (whole ▸ given)
    · exact valid.fields
  · intro earlier field later whole checked replaced
    have last (key : String) :
        lastValue? key (earlier ++ field :: later) = lastValue? key source.fields := by
      rw [whole, lastValue?_replaced replaced]
    apply point_of_sameRecord built (sameRecord_of_lastValue? (fun _ => rfl) last)
    · exact valid.tags
    · intro other member
      rcases List.mem_cons.mp (List.perm_middle.mem_iff.mp member) with rfl | given
      · exact checked
      · exact valid.fields other (whole ▸ given)

/-- Two keys of more than one octet, of which the longer one comes last, a tag that is replaced by
no value, and separators in names and texts. -/
theorem point_canonical_wide :
    let source : PointSource := ⟨"m,=", [("😀", "1"), ("x", "3"), ("\uFFFD", "2="), ("x", "")],
      [("b", .string "\""), ("a c", .boolean true)], some 7⟩
    let p : Point := ⟨Utf8.encode "m\\,=,\uFFFD=2\\=,😀=1",
      ⟨Utf8.encode "a\\ c=true,b=\"\\\"\"", [9, 16]⟩, some 7⟩
    source.point = .ok p ∧ Tag.Valid ("x", "4") ∧
    { source with tags := ("x", "4") :: source.tags }.point = .ok p ∧
    { source with fields := source.fields.reverse }.point = .ok p ∧
    ∃ tags fields, source.Canonical tags fields ∧
      Spelled p source.measurement tags fields ∧ p.time = source.time ∧
      { source with tags, fields }.point = .ok p := by
  intro source p
  have built : source.point = .ok p := by decide
  have valid : Tag.Valid ("x", "4") := ⟨by decide, by decide, by decide⟩
  obtain ⟨-, written, -, -, fields, tag, -⟩ := point_canonical built
  exact ⟨built, valid, tag [] _ source.tags rfl valid (by decide),
    fields _ (by decide) (List.reverse_perm _), written⟩

end SeriesWire.PointSource
