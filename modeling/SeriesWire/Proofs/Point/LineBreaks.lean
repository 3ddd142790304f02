import Mathlib.Data.List.Forall2
import SeriesWire.Proofs.Escape
import SeriesWire.Proofs.Point.Division
import SeriesWire.Proofs.Point.Faults
import SeriesWire.Proofs.Point.Line
import SeriesWire.Proofs.Point.Source
import SeriesWire.Proofs.Writer.Pieces

/-! Line breaks within lines. No name, no number and no time holds one, so each stands for
a line break in the text of some field. This stays so when points are divided. -/
namespace SeriesWire

theorem Utf8.count_newline (text : String) :
    (Utf8.encode text).count Octet.newline = text.toList.count '\n' := by
  have ascii : ('\n' : Char).toNat < 0x80 := by decide
  exact count_encodeChars ascii _

theorem Escape.newline_mem_escape {specials : Bytes} {text : String} :
    Octet.newline ∈ escape specials (Utf8.encode text) ↔ '\n' ∈ text.toList := by
  rw [← List.count_pos_iff, count_escape (by decide), Utf8.count_newline, List.count_pos_iff]

namespace FieldValue

/-- The line breaks in a text. -/
def lineBreaks : FieldValue → Nat
  | .string text => text.toList.count '\n'
  | _ => 0

theorem count_newline_encode (value : FieldValue) :
    value.encode.count Octet.newline = value.lineBreaks := by
  rcases value.encode_cases with ⟨text, rfl, quoted⟩ | ⟨cs, word, plain⟩
  · have escaped : (Escape.escape Escape.quotedSpecials (Utf8.encode text)).count Octet.newline =
        text.toList.count '\n' :=
      (Escape.count_escape (by decide) _ _).trans (Utf8.count_newline text)
    rw [quoted, Escape.quoted, List.count_cons_of_ne (by decide), List.count_append, escaped]
    rfl
  · have unbroken : value.lineBreaks = 0 := by
      cases value with
      | string => cases word
      | _ => rfl
    rw [plain, unbroken, List.count_eq_zero]
    exact fun member => not_mem_marks_of_word? word _ member (by decide)

end FieldValue

namespace Point

/-- Which line breaks a line holds. -/
structure BreaksInTexts (fields : List Field) (p : Point) : Prop where
  written : p.fields = .ofFields fields
  key : Octet.newline ∉ p.key
  time : ∀ time, p.time = some time → Octet.newline ∉ time.encode
  names : ∀ field ∈ fields, Octet.newline ∉ Escape.tag (Utf8.encode field.1)
  values : ∀ field ∈ fields, field.2.encode.count Octet.newline = field.2.lineBreaks
  line : p.line.count Octet.newline = (fields.map (·.2.lineBreaks)).sum

theorem count_newline_join {fields : List Field}
    (names : ∀ field ∈ fields, Octet.newline ∉ Escape.tag (Utf8.encode field.1)) :
    (Field.join fields).count Octet.newline = (fields.map (·.2.lineBreaks)).sum := by
  have encode {field : Field} (name : Octet.newline ∉ Escape.tag (Utf8.encode field.1)) :
      field.encode.count Octet.newline = field.2.lineBreaks := by
    rw [Field.encode, List.count_append, List.count_eq_zero.mpr name,
      List.count_cons_of_ne (by decide), FieldValue.count_newline_encode, Nat.zero_add]
  induction fields with
  | nil => rfl
  | cons field fields ih =>
    rw [List.forall_mem_cons] at names
    rw [List.map_cons, List.sum_cons, ← encode names.1]
    by_cases alone : fields = []
    · rw [alone, Field.join_singleton]
      rfl
    · rw [Field.join_cons field alone, List.count_append, List.count_cons_of_ne (by decide),
        ih names.2]

theorem breaksInTexts {p : Point} {fields : List Field} (written : p.fields = .ofFields fields)
    (key : Octet.newline ∉ p.key)
    (names : ∀ field ∈ fields, Octet.newline ∉ Escape.tag (Utf8.encode field.1)) :
    BreaksInTexts fields p := by
  have time (time : Timestamp) : Octet.newline ∉ time.encode :=
    fun member => Timestamp.not_mem_marks time _ member (by decide)
  have bytes : p.fields.bytes = Field.join fields := by
    rw [written]
    rfl
  refine ⟨written, key, fun shown _ => time shown, names, ?_, ?_⟩
  · exact fun field _ => field.2.count_newline_encode
  · have joined := count_newline_join names
    have front : (p.key ++ Octet.space :: p.fields.bytes).count Octet.newline =
        (fields.map (·.2.lineBreaks)).sum := by
      rw [List.count_append, List.count_eq_zero.mpr key, List.count_cons_of_ne (by decide), bytes,
        joined, Nat.zero_add]
    cases timed : p.time with
    | none => simpa [line, timed] using front
    | some shown =>
      have last : (Octet.space :: shown.encode).count Octet.newline = 0 := by
        rw [List.count_cons_of_ne (by decide), List.count_eq_zero]
        exact time shown
      simp only [line, timed]
      rw [List.count_append, front, last, Nat.add_zero]

end Point

namespace PointSource

/-- Line breaks in names, those of replaced entries included. -/
structure NamesUnbroken (source : PointSource) : Prop where
  measurement : '\n' ∉ source.measurement.toList
  tags : ∀ tag ∈ source.tags, '\n' ∉ tag.1.toList ∧ '\n' ∉ tag.2.toList
  fields : ∀ field ∈ source.fields, '\n' ∉ field.1.toList

variable {source : PointSource} {p q : Point}

theorem namesUnbroken (built : source.point = .ok p) : source.NamesUnbroken := by
  have valid := (point_eq_ok_iff.mp built).1
  constructor
  · exact fun newline => valid.measurement (.inl newline)
  · intro tag member
    have checked := valid.tags tag member
    exact ⟨fun newline => checked.key (.inl newline), fun newline => checked.value (.inl newline)⟩
  · intro field member newline
    exact (valid.fields field member).key (.inl newline)

/-- The source builds the point, and only its time was changed since. -/
def Makes (source : PointSource) (q : Point) : Prop :=
  ∃ p, source.point = .ok p ∧ p.Retimed q

theorem NamesUnbroken.seriesKey (unbroken : source.NamesUnbroken) :
    Octet.newline ∉ Point.seriesKey source.measurement (Point.writtenTags source.tags) := by
  intro member
  rcases List.mem_append.mp member with measurement | tags
  · exact unbroken.measurement (Escape.newline_mem_escape.mp measurement)
  · obtain ⟨tag, written, inside⟩ := List.mem_flatMap.mp tags
    have given := KeyTable.mem_of_mem_ofList (List.mem_of_mem_filter written)
    obtain ⟨key, value⟩ := unbroken.tags tag given
    have signs : Octet.newline ∉ [Octet.comma, Octet.equals] := by decide
    simp only [Tag.encode, Escape.tag, List.cons_append, List.mem_cons, List.mem_append,
      Escape.newline_mem_escape, key, value, false_or, or_false] at inside
    exact signs (by simpa using inside)

namespace Makes

theorem namesUnbroken (makes : source.Makes q) : source.NamesUnbroken := by
  obtain ⟨p, built, -⟩ := makes
  exact PointSource.namesUnbroken built

theorem roundTo (makes : source.Makes q) (unit? : Option Duration) :
    source.Makes (LineRecord.roundTo unit? q) := by
  obtain ⟨p, built, retimed⟩ := makes
  cases unit? with
  | none => exact ⟨p, built, retimed⟩
  | some unit => exact ⟨p, built, retimed.round unit⟩

theorem withFields_breaksInTexts (makes : source.Makes q) {group : List Field}
    (part : group ⊆ Point.writtenFields source.fields) :
    Point.BreaksInTexts group (q.withFields group) := by
  have unbroken := makes.namesUnbroken
  obtain ⟨p, built, retimed⟩ := makes
  refine Point.breaksInTexts rfl ?_ ?_
  · have key : q.key = p.key := by
      rw [retimed.eq_withTime]
      rfl
    obtain ⟨-, -, -, -, -, rfl⟩ := Point.build_eq_ok_iff.mp built
    exact key ▸ unbroken.seriesKey
  · intro field member name
    have given := KeyTable.mem_of_mem_ofList (part member)
    exact unbroken.fields field given (Escape.newline_mem_escape.mp name)

/-- What goes out for a point are its fields in groups of neighbours. -/
theorem pieces (makes : source.Makes q) (width : Width) (limit : Nat) :
    ∃ groups : List (List Field), IsLastValues source.fields groups.flatten ∧
      (∀ group ∈ groups, group ≠ []) ∧
      List.Forall₂ Point.BreaksInTexts groups (LineRecord.pieces width limit q) := by
  obtain ⟨p, built, retimed⟩ := makes
  have written := retimed.fields_eq built
  have nonempty : Point.writtenFields source.fields ≠ [] :=
    Point.writtenFields_ne_nil (Point.build_eq_ok_iff.mp built).2.2.2.1
  have divided : ∃ groups : List (List Field),
      groups.flatten = Point.writtenFields source.fields ∧ (∀ group ∈ groups, group ≠ []) ∧
      LineRecord.pieces width limit q = groups.map q.withFields := by
    unfold LineRecord.pieces
    split
    · have whole : q = q.withFields (Point.writtenFields source.fields) := by
        rw [Point.withFields, ← written]
      exact ⟨[Point.writtenFields source.fields], by simp, by simpa using nonempty,
        congrArg (fun p => [p]) whole⟩
    · obtain ⟨groups, flatten, begun, divided, -⟩ :=
        Point.split_groups nonempty written (limit - 1)
      exact ⟨groups, flatten, begun, divided⟩
  obtain ⟨groups, flatten, begun, divided⟩ := divided
  refine ⟨groups, flatten ▸ KeyTable.isLastValues_ofList source.fields, begun, ?_⟩
  rw [divided, List.forall₂_map_right_iff, List.forall₂_same]
  intro group member
  refine withFields_breaksInTexts ⟨p, built, retimed⟩ ?_
  rw [← flatten]
  exact (List.sublist_flatten_of_mem member).subset

end Makes

end PointSource

end SeriesWire
