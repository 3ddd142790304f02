import Mathlib.Algebra.GroupWithZero.Nat
import SeriesWire.Proofs.Escape
import SeriesWire.Proofs.KeyTable.LastEntries
import SeriesWire.Proofs.Point.Source
import SeriesWire.Proofs.Text.Utf8

/-! What is wrong with the input of a point. Every entry can have faults, replaced ones and tags
without a value included; only for the length of the series key the tags count that are written.
A point is built of an input without faults, and else the first fault is reported. -/
namespace SeriesWire

/-- The text holds a line break, for which names have no escape. -/
def BreaksLine (text : String) : Prop := '\n' ∈ text.toList ∨ '\r' ∈ text.toList
deriving Decidable

namespace Binary64

def exponent (x : Binary64) : Nat := x.bits.toNat / 2 ^ 52 % 2 ^ 11

def fraction (x : Binary64) : Nat := x.bits.toNat % 2 ^ 52

def IsInfinite (x : Binary64) : Prop := x.exponent = 0x7FF ∧ x.fraction = 0
deriving Decidable

def IsNaN (x : Binary64) : Prop := x.exponent = 0x7FF ∧ x.fraction ≠ 0
deriving Decidable

theorem isFinite_iff (x : Binary64) : x.isFinite = true ↔ ¬(x.IsInfinite ∨ x.IsNaN) := by
  have border : infinity = 0x7FF * 2 ^ 52 := by decide
  have sign : 1 <<< 63 = 2 ^ 63 := by decide
  have kinds : x.IsInfinite ∨ x.IsNaN ↔ x.exponent = 0x7FF := by
    rw [IsInfinite, IsNaN, ← and_or_left]
    exact and_iff_left (em _)
  rw [kinds, isFinite, decide_eq_true_iff, magnitude, exponent, border, sign]
  omega

end Binary64

def NamePlace.faults (place : NamePlace) (text : String) : List PointError :=
  if BreaksLine text then [.lineBreak place text] else []

def Tag.faults (tag : Tag) : List PointError :=
  (if tag.1 = "" then [.emptyTagKey] else []) ++ NamePlace.tagKey.faults tag.1 ++
    NamePlace.tagValue.faults tag.2

structure Tag.Valid (tag : Tag) : Prop where
  named : tag.1 ≠ ""
  key : ¬BreaksLine tag.1
  value : ¬BreaksLine tag.2

/-- The value is a float that has no written form. -/
def FieldValue.IsNonFinite (value : FieldValue) : Prop :=
  ∃ x, value = .float x ∧ (x.IsInfinite ∨ x.IsNaN)

theorem FieldValue.isFinite_iff (value : FieldValue) :
    value.isFinite = true ↔ ¬value.IsNonFinite := by
  cases value with
  | float x => simp [isFinite, IsNonFinite, x.isFinite_iff]
  | integer | unsigned | string | boolean => simp [isFinite, IsNonFinite]

instance (value : FieldValue) : Decidable value.IsNonFinite :=
  decidable_of_iff (¬value.isFinite = true) (by rw [value.isFinite_iff, not_not])

def Field.faults (field : Field) : List PointError :=
  (if field.1 = "" then [.emptyFieldKey] else []) ++ NamePlace.fieldKey.faults field.1 ++
    (if field.2.IsNonFinite then [.nonFiniteFloat field.1] else [])

structure Field.Valid (field : Field) : Prop where
  named : field.1 ≠ ""
  key : ¬BreaksLine field.1
  finite : ¬field.2.IsNonFinite

/-- The octets of a text in which every character of `specials` gets a backslash. -/
def escapedLength (specials : List Char) (text : String) : Nat :=
  text.utf8ByteSize + text.toList.countP (· ∈ specials)

/-- The octets of a tag, the separators before its key and before its value included. -/
def Tag.writtenLength (tag : Tag) : Nat :=
  escapedLength [',', '=', ' '] tag.1 + escapedLength [',', '=', ' '] tag.2 + 2

def measurementFaults (measurement : String) : List PointError :=
  (if measurement = "" then [.emptyMeasurement] else []) ++
    NamePlace.measurement.faults measurement

namespace PointSource

/-- The octets of the series key. A replaced tag does not count, nor one that is left
without a value. -/
def keyLength (source : PointSource) : Nat :=
  escapedLength [',', ' '] source.measurement +
    (((lastEntries source.tags).filter (·.2 ≠ "")).map Tag.writtenLength).sum

/-- Nothing is wrong with the measurement, with any entry or with the number of octets. -/
structure Valid (source : PointSource) : Prop where
  named : source.measurement ≠ ""
  measurement : ¬BreaksLine source.measurement
  tags : ∀ tag ∈ source.tags, tag.Valid
  fields : ∀ field ∈ source.fields, field.Valid
  nonempty : source.fields ≠ []
  short : source.keyLength ≤ 65535

/-- All that is wrong, in the order in which it is looked for. -/
def faults (source : PointSource) : List PointError :=
  measurementFaults source.measurement ++ (source.tags.flatMap Tag.faults ++
    (source.fields.flatMap Field.faults ++ ((if source.fields = [] then [.noFields] else []) ++
      (if 65535 < source.keyLength then [.keyTooLong source.keyLength] else []))))

end PointSource

theorem Tag.faults_eq_nil_iff (tag : Tag) : tag.faults = [] ↔ tag.Valid := by
  simp only [faults, NamePlace.faults, List.append_eq_nil_iff, ite_eq_right_iff, List.cons_ne_nil,
    imp_false]
  exact ⟨fun ⟨⟨named, key⟩, value⟩ => ⟨named, key, value⟩,
    fun ⟨named, key, value⟩ => ⟨⟨named, key⟩, value⟩⟩

theorem Field.faults_eq_nil_iff (field : Field) : field.faults = [] ↔ field.Valid := by
  simp only [faults, NamePlace.faults, List.append_eq_nil_iff, ite_eq_right_iff, List.cons_ne_nil,
    imp_false]
  exact ⟨fun ⟨⟨named, key⟩, finite⟩ => ⟨named, key, finite⟩,
    fun ⟨named, key, finite⟩ => ⟨⟨named, key⟩, finite⟩⟩

/-- The first of some faults counts. -/
def PointError.report : List PointError → Except PointError Unit
  | [] => .ok ()
  | fault :: _ => .error fault

open PointError

theorem report_append (faults more : List PointError) :
    report (faults ++ more) = (report faults >>= fun _ => report more) := by
  cases faults <;> rfl

theorem report_ite {condition : Prop} [Decidable condition] (fault : PointError) :
    report (if condition then [fault] else []) = if condition then .error fault else .ok () := by
  split <;> rfl

theorem report_flatMap {ι : Type} (faults : ι → List PointError) (values : List ι) :
    report (values.flatMap faults) = values.forM fun value => report (faults value) := by
  induction values with
  | nil => rfl
  | cons value values ih =>
    rw [List.flatMap_cons, report_append, ih]
    rfl

theorem Utf8.any_breaksLine (text : String) :
    (Utf8.encode text).any Point.breaksLine = true ↔ BreaksLine text := by
  have newline : Octet.newline ∈ Utf8.encode text ↔ '\n' ∈ text.toList :=
    Utf8.mem_encodeChars (by decide : ('\n' : Char).toNat < 0x80)
  have carriageReturn : Octet.carriageReturn ∈ Utf8.encode text ↔ '\r' ∈ text.toList :=
    Utf8.mem_encodeChars (by decide : ('\r' : Char).toNat < 0x80)
  rw [List.any_eq_true, BreaksLine, ← newline, ← carriageReturn]
  constructor
  · rintro ⟨b, member, breaks⟩
    rcases (by simpa [Point.breaksLine] using breaks : b = _ ∨ b = _) with rfl | rfl
    · exact .inl member
    · exact .inr member
  · rintro (member | member)
    · exact ⟨_, member, rfl⟩
    · exact ⟨_, member, rfl⟩

namespace Point

theorem checkName_eq (place : NamePlace) (text : String) :
    checkName place text = report (place.faults text) := by
  rw [NamePlace.faults, report_ite, checkName]
  exact if_congr (Utf8.any_breaksLine text) rfl rfl

theorem checkMeasurement_eq (measurement : String) :
    checkMeasurement measurement = report (measurementFaults measurement) := by
  rw [measurementFaults, report_append, report_ite, ← checkName_eq, checkMeasurement]
  by_cases empty : measurement = ""
  · simp [empty, bind, Except.bind]
  · simp [empty, bind, Except.bind]

theorem checkTag_eq (tag : Tag) : checkTag tag = report tag.faults := by
  rw [Tag.faults, report_append, report_append, report_ite, ← checkName_eq, ← checkName_eq,
    checkTag]
  by_cases empty : tag.1 = ""
  · simp [empty, bind, Except.bind]
  · simp [empty, bind, Except.bind]

theorem checkField_eq (field : Field) : checkField field = report field.faults := by
  rw [Field.faults, report_append, report_append, report_ite, report_ite, ← checkName_eq,
    checkField]
  have finite : field.2.isFinite = false ↔ field.2.IsNonFinite := by
    rw [← Bool.not_eq_true, field.2.isFinite_iff, not_not]
  by_cases empty : field.1 = ""
  · simp [empty, bind, Except.bind]
  · by_cases bad : field.2.IsNonFinite
    · simp [empty, bad, finite, bind, Except.bind]
    · simp [empty, bad, finite, bind, Except.bind, pure, Except.pure]

end Point

theorem Escape.length_escape_encode (specials : List Char)
    (ascii : ∀ c ∈ specials, c.toNat < 0x80) (text : String) :
    (escape (specials.map fun c => UInt8.ofNat c.toNat) (Utf8.encode text)).length =
      escapedLength specials text := by
  rw [length_escape, Utf8.length_encode, Utf8.countP_encode ascii, escapedLength]

theorem Tag.length_encode (tag : Tag) : tag.encode.length = tag.writtenLength := by
  have part (text : String) :
      (Escape.tag (Utf8.encode text)).length = escapedLength [',', '=', ' '] text :=
    Escape.length_escape_encode [',', '=', ' '] (by simp) text
  simp only [Tag.encode, Tag.writtenLength, List.cons_append, List.length_cons, List.length_append,
    part]
  omega

namespace PointSource

theorem length_seriesKey (source : PointSource) :
    (Point.seriesKey source.measurement (Point.writtenTags source.tags)).length =
      source.keyLength := by
  have measurement : (Escape.measurement (Utf8.encode source.measurement)).length =
      escapedLength [',', ' '] source.measurement :=
    Escape.length_escape_encode [',', ' '] (by simp) source.measurement
  have kept : (Point.writtenTags source.tags).Perm
      ((lastEntries source.tags).filter (·.2 ≠ "")) := by
    have same : Point.writtenTags source.tags =
        (KeyTable.ofList source.tags).toList.filter (·.2 ≠ "") := by
      refine List.filter_congr fun tag _ => ?_
      rw [Bool.eq_iff_iff]
      simp
    rw [same]
    exact (KeyTable.perm_lastEntries source.tags).filter _
  have tags : ((Point.writtenTags source.tags).flatMap Tag.encode).length =
      (((lastEntries source.tags).filter (·.2 ≠ "")).map Tag.writtenLength).sum := by
    rw [List.length_flatMap, ← (kept.map Tag.writtenLength).sum_nat]
    exact congrArg _ (List.map_congr_left fun tag _ => tag.length_encode)
  rw [Point.seriesKey, List.length_append, measurement, tags, keyLength]

/-- An input without faults is what it says, and else its first fault is reported. -/
theorem point_eq_report (source : PointSource) :
    source.point = (report source.faults).map fun _ =>
      ⟨Point.seriesKey source.measurement (Point.writtenTags source.tags),
        .ofFields (Point.writtenFields source.fields), source.time⟩ := by
  have tags : source.tags.forM Point.checkTag = report (source.tags.flatMap Tag.faults) := by
    rw [report_flatMap, funext Point.checkTag_eq]
  have fields : source.fields.forM Point.checkField =
      report (source.fields.flatMap Field.faults) := by
    rw [report_flatMap, funext Point.checkField_eq]
  rw [point, Point.build, Point.checkMeasurement_eq, tags, fields]
  simp only [faults, report_append, length_seriesKey]
  cases report (measurementFaults source.measurement) with
  | error => rfl
  | ok =>
    cases report (source.tags.flatMap Tag.faults) with
    | error => rfl
    | ok =>
      cases report (source.fields.flatMap Field.faults) with
      | error => rfl
      | ok =>
        by_cases empty : source.fields = []
        · simp [empty, report, bind, Except.bind, Except.map]
        · by_cases long : 65535 < source.keyLength
          · simp [empty, long, maxKeyLength, report, bind, Except.bind, Except.map]
          · simp [empty, long, maxKeyLength, report, bind, Except.bind, Except.map]

theorem valid_iff (source : PointSource) : source.Valid ↔ source.faults = [] := by
  simp only [faults, List.append_eq_nil_iff, List.flatMap_eq_nil_iff, Tag.faults_eq_nil_iff,
    Field.faults_eq_nil_iff, ite_eq_right_iff, List.cons_ne_nil, imp_false, measurementFaults,
    NamePlace.faults, Nat.not_lt]
  constructor
  · rintro ⟨named, measurement, tags, fields, nonempty, short⟩
    exact ⟨⟨named, measurement⟩, tags, fields, nonempty, short⟩
  · rintro ⟨⟨named, measurement⟩, tags, fields, nonempty, short⟩
    exact ⟨named, measurement, tags, fields, nonempty, short⟩

theorem point_eq_ok_iff {source : PointSource} {p : Point} :
    source.point = .ok p ↔ source.Valid ∧
      p = ⟨Point.seriesKey source.measurement (Point.writtenTags source.tags),
        .ofFields (Point.writtenFields source.fields), source.time⟩ := by
  rw [valid_iff, point_eq_report]
  cases source.faults with
  | nil => simp [report, Except.map, eq_comm]
  | cons fault more => simp [report, Except.map]

/-- A point comes of exactly the valid inputs, and of all others the error of the check that
fails first. -/
theorem accepts_valid_reports_first (source : PointSource) :
    ((∃ p, source.point = .ok p) ↔ source.Valid) ∧
    ∀ fault, source.point = .error fault ↔ source.faults.head? = some fault := by
  refine ⟨⟨?_, ?_⟩, fun fault => ?_⟩
  · rintro ⟨p, built⟩
    exact (point_eq_ok_iff.mp built).1
  · exact fun valid => ⟨_, point_eq_ok_iff.mpr ⟨valid, rfl⟩⟩
  · rw [point_eq_report]
    cases source.faults with
    | nil => simp [report, Except.map]
    | cons first more => simp [report, Except.map]

end PointSource

end SeriesWire
