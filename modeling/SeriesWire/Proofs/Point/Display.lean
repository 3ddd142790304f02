import SeriesWire.Proofs.FieldSet.Slices
import SeriesWire.Proofs.Point.Reachable
import SeriesWire.Proofs.Text.Decoding

/-! Points as texts. The octets of a line are those of a text, whatever characters its names and
values hold, and fields are only cut behind whole texts. So a point is displayed as it is sent. -/
namespace SeriesWire

open Utf8

theorem Tag.isText_encode (tag : Tag) : IsText tag.encode := by
  have value : IsText (Octet.equals :: Escape.tag (Utf8.encode tag.2)) :=
    (IsText.tag tag.2).cons (c := '=') (by decide)
  exact ((IsText.tag tag.1).append value).cons (c := ',') (by decide)

theorem FieldValue.isText_encode (value : FieldValue) : IsText value.encode := by
  cases value with
  | float x => exact IsText.ofChars _
  | integer i => exact IsText.ofChars _
  | unsigned n => exact IsText.ofChars _
  | string text => exact IsText.quoted text
  | boolean b => cases b <;> exact ⟨_, rfl⟩

namespace Field

theorem isText_encode (field : Field) : IsText field.encode :=
  (IsText.tag field.1).append (field.2.isText_encode.cons (c := '=') (by decide))

theorem isText_join (fields : List Field) : IsText (join fields) := by
  induction fields with
  | nil => exact IsText.ofChars []
  | cons field fields ih =>
    by_cases alone : fields = []
    · rw [alone, join_singleton]
      exact field.isText_encode
    · rw [join_cons field alone]
      exact field.isText_encode.append (ih.cons (c := ',') (by decide))

end Field

namespace Point

theorem isText_seriesKey (measurement : String) (tags : List Tag) :
    IsText (seriesKey measurement tags) := by
  have encoded : IsText (tags.flatMap Tag.encode) := by
    induction tags with
    | nil => exact IsText.ofChars []
    | cons tag tags ih => exact tag.isText_encode.append ih
  exact (IsText.measurement measurement).append encoded

theorem Reachable.isText_key {p : Point} (reachable : Reachable p) : IsText p.key := by
  induction reachable with
  | build built =>
    obtain ⟨-, -, -, -, -, rfl⟩ := build_eq_ok_iff.mp built
    exact isText_seriesKey _ _
  | withTime _ _ ih => exact ih
  | round _ _ ih => exact ih
  | piece _ member ih => rwa [(key_time_of_mem_split member).1]

theorem Reachable.isText_line {p : Point} (reachable : Reachable p) : IsText p.line := by
  obtain ⟨fields, -, written⟩ := reachable.fields_eq
  have bytes : IsText p.fields.bytes := by
    rw [written]
    exact Field.isText_join fields
  have front : IsText (p.key ++ Octet.space :: p.fields.bytes) :=
    reachable.isText_key.append (bytes.cons (c := ' ') (by decide))
  apply front.append
  cases p.time with
  | none => exact IsText.ofChars []
  | some time => exact (IsText.ofChars _).cons (c := ' ') (by decide)

/-- A point is displayed as it is sent. Its line is valid UTF-8, so no place in it is replaced, and
the same holds of any neighbouring fields that a division can cut out. -/
theorem Reachable.display_line {p : Point} (reachable : Reachable p) :
    p.line.toByteArray.IsValidUTF8 ∧
    Utf8.scan p.line = p.display.toList.map some ∧
    p.display.toUTF8 = p.line.toByteArray ∧
    ∀ first last, first < last → last ≤ p.fields.count →
      ∃ part, p.fields.part? first last = some part ∧
        part.bytes.toByteArray.IsValidUTF8 ∧
        Utf8.encode (Utf8.decodeLossy part.bytes) = part.bytes := by
  have valid := reachable.isText_line.isValidUTF8
  obtain ⟨text, encoded⟩ := reachable.isText_line
  have shown : p.display = text := by rw [display, ← encoded, decodeLossy_encode]
  refine ⟨valid, ?_, ?_, ?_⟩
  · rw [shown, ← encoded, scan_encode]
  · rw [shown, ← encoded, toByteArray_encode]
    rfl
  · intro first last ordered inside
    obtain ⟨fields, -, written⟩ := reachable.fields_eq
    rw [written, FieldSet.count_ofFields] at inside
    refine ⟨_, written ▸ FieldSet.part?_eq ordered inside, ?_, ?_⟩
    · exact (Field.isText_join _).isValidUTF8
    · obtain ⟨text, same⟩ := Field.isText_join ((fields.take last).drop first)
      change Utf8.encode (Utf8.decodeLossy (Field.join _)) = Field.join _
      rw [← same, decodeLossy_encode]

/-- A piece with characters of two, three and four octets, next to octets that are escaped. -/
theorem Reachable.display_line_wide_piece :
    let fields : List Field := [("ß", .boolean true), ("é ", .string "日\"\\")]
    let p : Point := ⟨Utf8.encode "m,k=\\,😀", .ofFields fields, some 3⟩
    let q : Point := ⟨Utf8.encode "m,k=\\,😀", .ofFields (fields.drop 1), some 3⟩
    Point.build "m" [("k", ",😀")] fields (some 3) = .ok p ∧ q ∈ p.split 20 ∧ Reachable q ∧
    q.line.toByteArray.IsValidUTF8 ∧ Utf8.scan q.line = q.display.toList.map some ∧
    q.display.toUTF8 = q.line.toByteArray ∧ q.display = "m,k=\\,😀 é\\ =\"日\\\"\\\\\" 3" := by
  intro fields p q
  have built : Point.build "m" [("k", ",😀")] fields (some 3) = .ok p := by decide
  have piece : q ∈ p.split 20 := by decide
  have reachable : Reachable q := .piece (.build built) piece
  obtain ⟨valid, places, octets, -⟩ := reachable.display_line
  exact ⟨built, piece, reachable, valid, places, octets, by decide⟩

end Point

end SeriesWire
