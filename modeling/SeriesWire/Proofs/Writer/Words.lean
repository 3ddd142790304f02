import Mathlib.Algebra.Group.Nat.Defs
import SeriesWire.Proofs.Writer.TwoPhases

/-! Sums of sizes as a machine takes them. No allocation has 2^63 octets, so a message and a line
that stand in memory are shorter than that, and the sum of their lengths still fits into a word.
Where records announce the true lengths of such lines, a write is the same as with numbers of any
size. Sizes that are only announced can be larger, and then the sums wrap around. -/
namespace SeriesWire

variable {σ α : Type} {limit : Nat}

theorem Width.add_machine {a b : Nat} (first : a < 2 ^ 63) (second : b < 2 ^ 63) :
    machine.add a b = a + b :=
  (BitVec.toNat_ofNat _ 64).trans (Nat.mod_eq_of_lt (by omega))

/-- Messages of at most `limit` octets, and all lines, are shorter than memory can be. -/
structure RecordBatch.FitsMemory [LineRecord α] (batch : RecordBatch α) (limit : Nat) : Prop where
  payload : limit < 2 ^ 63
  records : ∀ record ∈ batch.rounded, LineRecord.size record + 1 < 2 ^ 63
  pieces : ∀ piece ∈ batch.pieces .unbounded limit, LineRecord.size piece + 1 < 2 ^ 63

/-- What two steps do alike, as long as they keep to some states, they do alike many times. -/
theorem foldl_eq_of_kept {β γ : Type} {f g : β → γ → β} (kept : β → Prop) {items : List γ}
    (alike : ∀ state, kept state → ∀ item ∈ items,
      f state item = g state item ∧ kept (g state item))
    {start : β} (begun : kept start) :
    items.foldl f start = items.foldl g start ∧ kept (items.foldl g start) := by
  induction items generalizing start with
  | nil => exact ⟨rfl, begun⟩
  | cons item items ih =>
    obtain ⟨same, next⟩ := alike start begun item List.mem_cons_self
    rw [List.foldl_cons, List.foldl_cons, same]
    exact ih (fun state h other member => alike state h other (List.mem_cons_of_mem _ member)) next

namespace LineRecord

variable [LineRecord α]

theorem octets_machine {record : α} (short : size record + 1 < 2 ^ 63) :
    octets .machine record = octets .unbounded record :=
  Width.add_machine (by omega) (by decide)

theorem isOversized_machine {record : α} (short : size record + 1 < 2 ^ 63) :
    isOversized .machine limit record = isOversized .unbounded limit record := by
  rw [isOversized, isOversized, octets_machine short]

/-- A record that announces the largest word seems to need no room, and is never divided. -/
theorem pieces_machine_of_largest {record : α} (largest : size record = 2 ^ 64 - 1) :
    pieces .machine limit record = [record] := by
  have wrapped : Width.machine.add (size record) 1 = 0 := by
    rw [largest]
    decide
  exact if_pos (.inr (wrapped ▸ Nat.zero_le limit))

end LineRecord

theorem RecordBatch.frames_machine [LineRecord α] {batch : RecordBatch α}
    (short : ∀ record ∈ batch.rounded, LineRecord.size record + 1 < 2 ^ 63) :
    batch.frames .machine limit = batch.frames .unbounded limit := by
  refine List.map_congr_left fun record member => ?_
  rw [Frame.ofRecord, Frame.ofRecord, LineRecord.isOversized_machine (short record member)]

namespace Packing

theorem reserve_machine {packing : Packing} (filled : packing.filled < 2 ^ 63) {octets : Nat}
    (short : octets < 2 ^ 63) :
    packing.reserve .machine limit octets = packing.reserve .unbounded limit octets := by
  rw [reserve, reserve, Width.add_machine filled short]
  rfl

theorem filled_reserve_le (packing : Packing) (octets : Nat) :
    (packing.reserve .unbounded limit octets).filled ≤ packing.filled := by
  rcases reserve_cases .unbounded limit packing octets with ⟨same, _⟩ | ⟨_, _, pending, _⟩
  · exact Nat.le_of_eq (congrArg filled same)
  · simp [filled, pending, Line.join]

variable {line : Line}

theorem addLine_machine {packing : Packing} (filled : packing.filled < 2 ^ 63)
    (short : line.size + 1 < 2 ^ 63) :
    packing.addLine .machine limit line = packing.addLine .unbounded limit line := by
  have octets : line.octets .machine = line.size + 1 := Width.add_machine (by omega) (by decide)
  rw [addLine, octets, reserve_machine filled short]
  rfl

/-- A message with more than one line keeps the limit, and a line alone is short. -/
theorem filled_addLine_lt (bounded : limit < 2 ^ 63) (sized : line.size = line.bytes.length)
    (short : line.size + 1 < 2 ^ 63) (packing : Packing) :
    (packing.addLine .unbounded limit line).filled < 2 ^ 63 := by
  have length : line.terminated.length = line.size + 1 := by simp [Line.terminated, sized]
  rcases addLine_cases .unbounded limit packing line with
    ⟨_, _, pending⟩ | ⟨_, fits, _, _, pending⟩
  · simpa [filled, pending, Line.join, length] using short
  · have together : (packing.addLine .unbounded limit line).filled =
        packing.filled + (line.size + 1) := by
      simp [filled, pending, Line.join, length]
    rw [together]
    exact Nat.lt_of_le_of_lt fits bounded

theorem addFrame_machine (bounded : limit < 2 ^ 63) {frame : Frame α}
    (whole : frame.size + 1 < 2 ^ 63)
    (lines : ∀ line ∈ frame.lines, line.size = line.bytes.length ∧ line.size + 1 < 2 ^ 63)
    {packing : Packing} (filled : packing.filled < 2 ^ 63) :
    packing.addFrame .machine limit frame = packing.addFrame .unbounded limit frame ∧
      (packing.addFrame .unbounded limit frame).filled < 2 ^ 63 := by
  have octets : Width.machine.add frame.size 1 = frame.size + 1 :=
    Width.add_machine (by omega) (by decide)
  rw [addFrame, octets, reserve_machine filled whole]
  refine foldl_eq_of_kept (fun packing : Packing => packing.filled < 2 ^ 63) ?_ ?_
  · intro packing filled line member
    obtain ⟨sized, short⟩ := lines line member
    exact ⟨addLine_machine filled short, filled_addLine_lt bounded sized short packing⟩
  · exact Nat.lt_of_le_of_lt (packing.filled_reserve_le _) filled

theorem ofFrames_machine (bounded : limit < 2 ^ 63) {frames : List (Frame α)}
    (wholes : ∀ frame ∈ frames, frame.size + 1 < 2 ^ 63)
    (lines : ∀ line ∈ frames.flatMap (·.lines),
      line.size = line.bytes.length ∧ line.size + 1 < 2 ^ 63) :
    ofFrames .machine limit frames = ofFrames .unbounded limit frames := by
  refine (foldl_eq_of_kept (fun packing : Packing => packing.filled < 2 ^ 63) ?_ ?_).1
  · intro packing filled frame member
    exact addFrame_machine bounded (wholes frame member)
      (fun line inside => lines line (List.mem_flatMap.mpr ⟨frame, member, inside⟩)) filled
  · decide

end Packing

/-- Words are enough for records that announce the lengths of their lines. -/
theorem Writer.write_machine_eq [Sink σ] [LineRecord α]
    (sized : ∀ record : α, LineRecord.size record = (LineRecord.line record).length)
    {writer : Writer σ} {batch : RecordBatch α} (fits : batch.FitsMemory writer.payloadSize) :
    writer.write .machine batch = writer.write .unbounded batch := by
  have wholes : ∀ frame ∈ batch.frames .unbounded writer.payloadSize, frame.size + 1 < 2 ^ 63 := by
    intro frame member
    obtain ⟨record, taken, rfl⟩ := List.mem_map.mp member
    rw [Frame.size_ofRecord]
    exact fits.records record taken
  have lines : ∀ line ∈ (batch.frames .unbounded writer.payloadSize).flatMap (·.lines),
      line.size = line.bytes.length ∧ line.size + 1 < 2 ^ 63 := by
    rw [RecordBatch.lines_frames, List.forall_mem_map]
    exact fun piece member => ⟨sized piece, fits.pieces piece member⟩
  simp only [write_eq_writePacked, writePacked, RecordBatch.frames_machine fits.records,
    Packing.ofFrames_machine fits.payload wholes lines]

end SeriesWire
