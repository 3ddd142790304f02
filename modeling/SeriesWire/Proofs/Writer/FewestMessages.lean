import SeriesWire.Proofs.Grouping
import SeriesWire.Proofs.Writer.Framing
import SeriesWire.Proofs.Writer.Words

/-! No fewer messages would do. Among all ways of sending the lines of a batch in messages
that keep the limit and are begun anew before every record that is divided, a write takes
one with the fewest messages, for it never begins one without need. -/
namespace SeriesWire

variable {σ α : Type}

/-- A line as it is sent, and the place in the batch of the record that it comes from. -/
structure PlacedLine where
  place : Nat
  bytes : Bytes

def PlacedLine.message (group : List PlacedLine) : Bytes := group.flatMap (·.bytes)

/-- No group reaches over the beginning of a record that is divided. -/
def PlacedLine.Apart (divided : Nat → Prop) (group : List PlacedLine) : Prop :=
  ∀ place, divided place → ∀ earlier ∈ group, ∀ later ∈ group,
    ¬(earlier.place < place ∧ place ≤ later.place)

/-- What a message with more than one line has to keep. -/
def PlacedLine.Fits (limit : Nat) (divided : Nat → Prop) (group : List PlacedLine) : Prop :=
  (message group).length ≤ limit ∧ Apart divided group

namespace RecordBatch

variable [LineRecord α]

/-- The lines of some records, the first of which has the place `start`. -/
def placedFrom (limit start : Nat) (records : List α) : List PlacedLine :=
  (records.zipIdx start).flatMap fun (record, place) =>
    (LineRecord.pieces .unbounded limit record).map fun piece => ⟨place, LineRecord.wireLine piece⟩

def placedLines (limit : Nat) (batch : RecordBatch α) : List PlacedLine :=
  placedFrom limit 0 batch.rounded

/-- Without their places these are the lines of the batch. -/
theorem bytes_placedLines (limit : Nat) (batch : RecordBatch α) :
    (batch.placedLines limit).map PlacedLine.bytes = batch.wireLines .unbounded limit := by
  have bytes (records : List α) (start : Nat) :
      (placedFrom limit start records).map PlacedLine.bytes =
        (records.flatMap (LineRecord.pieces .unbounded limit)).map LineRecord.wireLine := by
    induction records generalizing start with
    | nil => rfl
    | cons record records ih =>
      have rest := ih (start + 1)
      simp only [placedFrom] at rest
      simp [placedFrom, rest]
  exact bytes batch.rounded 0

end RecordBatch

open Grouping

namespace PlacedLine

end PlacedLine

open PlacedLine

/-- Messages with the places of their lines. A message that is being filled was begun no
earlier than the last divided record; where none is, a divided record ended the last one. -/
structure Packing.Placed (packing : Packing) (limit : Nat) (divided : Nat → Prop) (bound : Nat)
    (lines : List PlacedLine) (groups : List (List PlacedLine)) : Prop where
  same : packing.groups.map (·.map Line.terminated) = groups.map (·.map PlacedLine.bytes)
  grouped : IsTightGrouping (Fits limit divided) lines groups
  behind : ∀ line ∈ lines, line.place < bound
  filling : packing.pending ≠ [] → ∀ last ∈ groups.getLast?,
    ∀ place < bound, divided place → ∀ line ∈ last, place ≤ line.place
  ended : packing.pending = [] → ∀ last ∈ groups.getLast?,
    ∃ place < bound, divided place ∧ ∀ line ∈ last, line.place < place

namespace Packing

variable {limit bound : Nat} {divided : Nat → Prop} {packing : Packing}
  {lines : List PlacedLine} {groups : List (List PlacedLine)}

theorem Placed.behind_last (placed : packing.Placed limit divided bound lines groups) :
    ∀ last ∈ groups.getLast?, ∀ line ∈ last, line.place < bound := by
  intro last isLast line member
  apply placed.behind line
  rw [← placed.grouped.flatten]
  exact List.mem_flatten.mpr ⟨last, List.mem_of_getLast? isLast, member⟩

theorem Placed.next (placed : packing.Placed limit divided bound lines groups)
    (whole : ¬divided bound) : packing.Placed limit divided (bound + 1) lines groups where
  same := placed.same
  grouped := placed.grouped
  behind line member := Nat.lt_succ_of_lt (placed.behind line member)
  filling pending last isLast place before division :=
    have earlier : place ≠ bound := fun same => whole (same ▸ division)
    placed.filling pending last isLast place (by omega) division
  ended pending last isLast :=
    have ⟨place, before, division, ended⟩ := placed.ended pending last isLast
    ⟨place, Nat.lt_succ_of_lt before, division, ended⟩

theorem Placed.reserve (placed : packing.Placed limit divided bound lines groups)
    (division : divided bound) {octets : Nat} (excess : limit < octets) :
    (packing.reserve .unbounded limit octets).Placed limit divided (bound + 1) lines groups where
  same := by rw [reserve_groups, placed.same]
  grouped := placed.grouped
  behind line member := Nat.lt_succ_of_lt (placed.behind line member)
  filling pending := absurd (reserve_pending_of_lt packing excess) pending
  ended _ last isLast := ⟨bound, Nat.lt_succ_self _, division, placed.behind_last last isLast⟩

theorem Placed.length_message (placed : packing.Placed limit divided bound lines groups)
    (filling : packing.pending ≠ []) {last : List PlacedLine}
    (isLast : groups.getLast? = some last) : (message last).length = packing.filled := by
  have same := congrArg List.getLast? placed.same
  rw [groups_of_pending_ne_nil filling] at same
  simp only [List.map_append, List.map_cons, List.map_nil, List.getLast?_concat,
    List.getLast?_map, isLast, Option.map_some, Option.some.injEq] at same
  rw [message, List.flatMap_def, ← same, Packing.filled, Line.join_eq_flatten]

theorem Placed.not_fits (placed : packing.Placed limit divided bound lines groups)
    {line : PlacedLine} (here : line.place + 1 = bound)
    (room : packing.pending = [] ∨ limit < packing.filled + line.bytes.length) :
    ∀ last ∈ groups.getLast?, ¬Fits limit divided (last ++ [line]) := by
  rintro last isLast ⟨short, apart⟩
  by_cases pending : packing.pending = []
  · obtain ⟨place, before, division, ended⟩ := placed.ended pending last isLast
    have nonempty := placed.grouped.nonempty last (List.mem_of_getLast? isLast)
    obtain ⟨earlier, member⟩ := List.exists_mem_of_ne_nil last nonempty
    refine apart place division earlier (by simp [member]) line (by simp) ⟨ended earlier member, ?_⟩
    omega
  · have full := room.resolve_left pending
    have length := placed.length_message pending isLast
    simp only [message, List.flatMap_append, List.length_append, List.flatMap_singleton]
      at short length
    omega

theorem Placed.fits (placed : packing.Placed limit divided bound lines groups)
    {line : PlacedLine} (here : line.place + 1 = bound) (filling : packing.pending ≠ [])
    (room : packing.filled + line.bytes.length ≤ limit) {last : List PlacedLine}
    (isLast : groups.getLast? = some last) : Fits limit divided (last ++ [line]) := by
  constructor
  · have length := placed.length_message filling isLast
    simp only [message, List.flatMap_append, List.length_append, List.flatMap_singleton]
      at length ⊢
    omega
  · rintro place division earlier first later second ⟨before, behind⟩
    have reached : place < bound := by
      simp only [List.mem_append, List.mem_singleton] at second
      rcases second with member | rfl
      · exact Nat.lt_of_le_of_lt behind (placed.behind_last last isLast later member)
      · omega
    simp only [List.mem_append, List.mem_singleton] at first
    rcases first with member | rfl
    · have begun := placed.filling filling last isLast place reached division earlier member
      exact Nat.not_le.mpr before begun
    · omega

theorem Placed.addLine (placed : packing.Placed limit divided bound lines groups) {line : Line}
    (sized : line.size = line.bytes.length) {place : Nat} (here : place + 1 = bound) :
    ∃ groups', (packing.addLine .unbounded limit line).Placed limit divided bound
      (lines ++ [⟨place, line.terminated⟩]) groups' := by
  have long : line.octets .unbounded = line.terminated.length := by
    simp [Line.octets, Line.terminated, sized]
  have behind : ∀ found ∈ lines ++ [⟨place, line.terminated⟩], found.place < bound := by
    simp only [List.mem_append, List.mem_singleton]
    rintro found (earlier | rfl)
    · exact placed.behind found earlier
    · exact here ▸ Nat.lt_succ_self place
  have filled : (packing.addLine .unbounded limit line).pending ≠ [] :=
    addLine_pending_ne_nil packing line
  rcases addLine_cases .unbounded limit packing line with
    ⟨room, added, pending⟩ | ⟨filling, room, before, added, pending⟩
  · rw [long, Width.add_unbounded] at room
    refine ⟨groups ++ [[⟨place, line.terminated⟩]], ?_,
      placed.grouped.fresh (placed.not_fits here room), behind, ?_,
      fun empty => absurd empty filled⟩
    · simp [added, placed.same]
    · simp only [List.getLast?_concat, Option.mem_some_iff, forall_eq', List.mem_singleton,
        forall_eq]
      intro _ earlier reached _
      omega
  · rw [long, Width.add_unbounded] at room
    have same := placed.same
    rw [before] at same
    have begun : groups ≠ [] := by
      rintro rfl
      simp at same
    obtain ⟨closed, last, rfl⟩ : ∃ closed last, groups = closed ++ [last] :=
      ⟨groups.dropLast, groups.getLast begun, (List.dropLast_concat_getLast begun).symm⟩
    have isLast : (closed ++ [last]).getLast? = some last := List.getLast?_concat
    simp only [List.map_append, List.map_cons, List.map_nil] at same
    obtain ⟨earlier, atHand⟩ := List.append_inj' same rfl
    refine ⟨closed ++ [last ++ [⟨place, line.terminated⟩]], ?_,
      placed.grouped.extend (placed.fits here filling room isLast), behind, ?_,
      fun empty => absurd empty filled⟩
    · simpa [added, earlier] using atHand
    · simp only [List.getLast?_concat, Option.mem_some_iff, forall_eq', List.mem_append,
        List.mem_singleton]
      rintro _ earlier reached division found (member | rfl)
      · exact placed.filling filling last isLast earlier reached division found member
      · exact Nat.le_of_lt_succ (Nat.lt_of_lt_of_eq reached here.symm)

theorem Placed.foldl_addLine {place : Nat} [LineRecord α]
    (sized : ∀ record : α, LineRecord.size record = (LineRecord.line record).length)
    (pieces : List α) (placed : packing.Placed limit divided (place + 1) lines groups) :
    ∃ groups', ((pieces.map Line.ofRecord).foldl (Packing.addLine .unbounded limit) packing).Placed
      limit divided (place + 1)
      (lines ++ pieces.map fun piece => ⟨place, LineRecord.wireLine piece⟩) groups' := by
  induction pieces generalizing packing lines groups with
  | nil => exact ⟨groups, by simpa using placed⟩
  | cons piece pieces ih =>
    have pieceSized : (Line.ofRecord piece).size = (Line.ofRecord piece).bytes.length := sized piece
    obtain ⟨_, next⟩ := placed.addLine pieceSized rfl
    simpa [Line.terminated_ofRecord] using ih next

theorem Placed.addFrame [LineRecord α] {place : Nat}
    (sized : ∀ record : α, LineRecord.size record = (LineRecord.line record).length)
    (placed : packing.Placed limit divided place lines groups) {record : α}
    (division : divided place ↔ LineRecord.isOversized .unbounded limit record) :
    ∃ groups', (packing.addFrame .unbounded limit (.ofRecord .unbounded limit record)).Placed limit
      divided (place + 1) (lines ++ (LineRecord.pieces .unbounded limit record).map fun piece =>
        ⟨place, LineRecord.wireLine piece⟩) groups' := by
  by_cases oversized : LineRecord.isOversized .unbounded limit record
  · have excess := LineRecord.lt_size_of_oversized oversized
    have left := placed.reserve (division.mpr oversized) excess
    simpa only [Packing.addFrame, Frame.lines_ofRecord, Frame.size_ofRecord,
      Width.add_unbounded] using
      left.foldl_addLine sized _
  · have next := placed.next (mt division.mp oversized)
    have single := LineRecord.pieces_of_not_oversized (Bool.eq_false_iff.mpr oversized)
    have whole : packing.addFrame .unbounded limit (.ofRecord .unbounded limit record) =
        packing.addLine .unbounded limit (.ofRecord record) := by
      simp [Packing.addFrame, Frame.lines_ofRecord, Frame.size_ofRecord, single, Packing.addLine,
        Line.ofRecord, Line.octets, reserve_reserve]
    rw [whole, single]
    exact next.addLine (sized record) rfl

end Packing

end SeriesWire
