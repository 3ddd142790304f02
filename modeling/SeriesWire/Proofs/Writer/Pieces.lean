import SeriesWire.LineRecord

/-! The lines of one write, told record by record and without a word about messages: what
messages are measured against. A record goes out as itself or, where it is too large and has
a time, as its parts. -/
namespace SeriesWire

/-- A line to be sent, and the size it was announced with. -/
structure Line where
  size : Nat
  bytes : Bytes
deriving DecidableEq

def Line.terminated (line : Line) : Bytes := line.bytes ++ [Octet.newline]

/-- The size that a line was announced with, its line break included. -/
def Line.octets (width : Width) (line : Line) : Nat := width.add line.size 1

def Line.join (lines : List Line) : Bytes := lines.flatMap Line.terminated

def Line.ofRecord {α : Type} [LineRecord α] (record : α) : Line :=
  ⟨LineRecord.size record, LineRecord.line record⟩

/-- The lines of a record with its size as a whole, and the record after it was asked
for them. -/
structure Frame (α : Type) where
  size : Nat
  lines : List Line
  record : α
deriving DecidableEq

variable {α : Type} [LineRecord α] {width : Width}

/-- The lines in which a record is sent. -/
def Frame.ofRecord (width : Width) (limit : Nat) (record : α) : Frame α :=
  if LineRecord.isOversized width limit record then
    let (parts, after) := LineRecord.split (limit - 1) record
    ⟨LineRecord.size record, parts.map .ofRecord, after⟩
  else ⟨LineRecord.size record, [.ofRecord record], record⟩

/-- What goes out for a record: itself if it has no time or fits into `limit` octets with
its line break, and else its parts, which leave one octet for theirs. -/
def LineRecord.pieces (width : Width) (limit : Nat) (record : α) : List α :=
  if LineRecord.hasTime record = false ∨ width.add (LineRecord.size record) 1 ≤ limit then [record]
  else (LineRecord.split (limit - 1) record).1

def LineRecord.wireLine (record : α) : Bytes := LineRecord.line record ++ [Octet.newline]

namespace RecordBatch

/-- The records of a batch, each rounded once if the precision names a unit. -/
def rounded (batch : RecordBatch α) : List α :=
  batch.records.map (LineRecord.roundTo (Precision.unit? batch.precision))

/-- The frames of a batch, in order. -/
def frames (width : Width) (limit : Nat) (batch : RecordBatch α) : List (Frame α) :=
  batch.rounded.map (Frame.ofRecord width limit)

/-- All that goes out for a batch, in order. -/
def pieces (width : Width) (limit : Nat) (batch : RecordBatch α) : List α :=
  batch.rounded.flatMap (LineRecord.pieces width limit)

def wireLines (width : Width) (limit : Nat) (batch : RecordBatch α) : List Bytes :=
  (batch.pieces width limit).map LineRecord.wireLine

end RecordBatch

theorem Line.terminated_ofRecord (record : α) :
    (Line.ofRecord record).terminated = LineRecord.wireLine record := rfl

theorem Line.terminated_ne_nil (line : Line) : line.terminated ≠ [] := by
  simp [terminated]

theorem Line.join_eq_flatten (lines : List Line) :
    Line.join lines = (lines.map Line.terminated).flatten := by
  rw [Line.join, List.flatMap_def]

theorem Line.join_eq_nil_iff {lines : List Line} : Line.join lines = [] ↔ lines = [] := by
  cases lines with
  | nil => simp [join]
  | cons line lines => simp [join, terminated_ne_nil]

namespace LineRecord

theorem isOversized_iff (width : Width) (limit : Nat) (record : α) :
    isOversized width limit record = true ↔
      hasTime record ∧ limit < width.add (size record) 1 := by
  rw [isOversized, Bool.and_eq_true, decide_eq_true_eq, octets]

theorem lt_size_of_oversized {limit : Nat} {record : α}
    (oversized : isOversized .unbounded limit record = true) : limit < size record + 1 :=
  ((isOversized_iff .unbounded limit record).mp oversized).2

theorem pieces_of_oversized {limit : Nat} {record : α}
    (oversized : isOversized width limit record = true) :
    pieces width limit record = (split (limit - 1) record).1 := by
  obtain ⟨timed, excess⟩ := (isOversized_iff width limit record).mp oversized
  refine if_neg (not_or.mpr ⟨?_, Nat.not_le.mpr excess⟩)
  rw [timed]
  decide

theorem pieces_of_not_oversized {limit : Nat} {record : α}
    (whole : isOversized width limit record = false) : pieces width limit record = [record] := by
  rw [← Bool.not_eq_true, isOversized_iff, Classical.not_and_iff_not_or_not, Nat.not_lt,
    Bool.not_eq_true] at whole
  exact if_pos whole

end LineRecord

namespace Frame

theorem size_ofRecord (width : Width) (limit : Nat) (record : α) :
    (ofRecord width limit record).size = LineRecord.size record := by
  unfold ofRecord
  split <;> rfl

theorem lines_ofRecord (width : Width) (limit : Nat) (record : α) :
    (ofRecord width limit record).lines =
      (LineRecord.pieces width limit record).map Line.ofRecord := by
  unfold ofRecord
  split
  next h => rw [LineRecord.pieces_of_oversized h]
  next h => rw [LineRecord.pieces_of_not_oversized (Bool.eq_false_iff.mpr h)]; rfl

/-- Only a record that is divided may go out without any line. -/
theorem isOversized_of_lines_eq_nil {limit : Nat} {record : α}
    (empty : (ofRecord width limit record).lines = []) :
    LineRecord.isOversized width limit record = true := by
  cases h : LineRecord.isOversized width limit record with
  | true => rfl
  | false =>
    rw [lines_ofRecord, LineRecord.pieces_of_not_oversized h] at empty
    cases empty

end Frame

namespace RecordBatch

theorem lines_frames (width : Width) (limit : Nat) (batch : RecordBatch α) :
    (batch.frames width limit).flatMap (·.lines) = (batch.pieces width limit).map Line.ofRecord := by
  simp [frames, pieces, List.flatMap_map, List.map_flatMap, Frame.lines_ofRecord]

theorem lines_sized (sized : ∀ record : α, LineRecord.size record = (LineRecord.line record).length)
    (width : Width) (limit : Nat) (batch : RecordBatch α) :
    ∀ line ∈ (batch.frames width limit).flatMap (·.lines), line.size = line.bytes.length := by
  intro line member
  rw [lines_frames] at member
  obtain ⟨piece, _, rfl⟩ := List.mem_map.mp member
  exact sized piece

theorem wireLines_eq (width : Width) (limit : Nat) (batch : RecordBatch α) :
    batch.wireLines width limit =
      ((batch.frames width limit).flatMap (·.lines)).map Line.terminated := by
  simp [lines_frames, wireLines, Line.terminated_ofRecord]

end RecordBatch

end SeriesWire
