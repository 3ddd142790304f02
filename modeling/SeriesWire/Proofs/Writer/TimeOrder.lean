import SeriesWire.Proofs.Point.NearestMultiple
import SeriesWire.Proofs.Point.Reachable
import SeriesWire.Proofs.Writer.Framing

/-! Times in order stay in order. Rounding moves no time past another, also where one of two is
left as it is because its multiple is no timestamp, and the parts of a point keep its time. So the
lines of a batch go out in the order of their times if its points stand in that order. -/
namespace SeriesWire

/-- Of two times with different nearest multiples neither is passed by the multiple of the other. -/
theorem nearestMultiple_between {unit : Nat} (positive : 0 < unit) {earlier later : Int}
    (le : earlier ≤ later) (apart : nearestMultiple unit earlier ≠ nearestMultiple unit later) :
    nearestMultiple unit earlier ≤ later ∧ earlier ≤ nearestMultiple unit later := by
  have ordered := nearestMultiple_le_nearestMultiple positive le
  have fixed (time : Int) :
      nearestMultiple unit (nearestMultiple unit time) = nearestMultiple unit time :=
    nearestMultiple_of_dvd positive (dvd_nearestMultiple unit time)
  have crossed (back : nearestMultiple unit later ≤ nearestMultiple unit earlier) : False :=
    apart (Int.le_antisymm ordered back)
  constructor
  · refine Int.not_lt.mp fun past => crossed ?_
    rw [← fixed earlier]
    exact nearestMultiple_le_nearestMultiple positive (Int.le_of_lt past)
  · refine Int.not_lt.mp fun past => crossed ?_
    rw [← fixed later]
    exact nearestMultiple_le_nearestMultiple positive (Int.le_of_lt past)

theorem Timestamp.round_le_round (unit : Duration) {earlier later : Timestamp}
    (le : earlier ≤ later) : round unit earlier ≤ round unit later := by
  by_cases zero : unit.toNanos = 0
  · rwa [round_of_zero zero, round_of_zero zero]
  · have positive := Nat.pos_of_ne_zero zero
    rw [Int64.le_iff_toInt_le] at le ⊢
    have ordered := nearestMultiple_le_nearestMultiple positive le
    have between := nearestMultiple_between positive le
    rcases round_cases zero earlier with first | ⟨firstOut, firstStays⟩ <;>
      rcases round_cases zero later with second | ⟨secondOut, secondStays⟩
    · rwa [first, second]
    · rw [secondStays, first]
      refine (between fun same => ?_).1
      rw [← same, ofInt?_eq_some_iff.mpr first] at secondOut
      cases secondOut
    · rw [firstStays, second]
      refine (between fun same => ?_).2
      rw [same, ofInt?_eq_some_iff.mpr second] at firstOut
      cases firstOut
    · rwa [firstStays, secondStays]

namespace Point

/-- The times of the points that have one. -/
def times (points : List Point) : List Timestamp := points.filterMap (·.time)

/-- Of two points that have a time the second is not the earlier. -/
def InOrder (first second : Point) : Prop :=
  ∀ earlier, first.time = some earlier → ∀ later, second.time = some later → earlier ≤ later

theorem pairwise_times_iff {points : List Point} :
    (times points).Pairwise (· ≤ ·) ↔ points.Pairwise InOrder :=
  List.pairwise_filterMap

theorem InOrder.of_time_eq {first second : Point} (same : first.time = second.time) :
    InOrder first second := by
  intro earlier timed later timedToo
  rw [same, timedToo] at timed
  exact Option.some.inj timed ▸ Int64.le_refl _

theorem InOrder.roundTo {first second : Point} (inOrder : InOrder first second)
    (unit? : Option Duration) :
    InOrder (LineRecord.roundTo unit? first) (LineRecord.roundTo unit? second) := by
  cases unit? with
  | none => exact inOrder
  | some unit =>
    intro earlier timed later timedToo
    obtain ⟨early, first, rfl⟩ := Option.map_eq_some_iff.mp timed
    obtain ⟨late, second, rfl⟩ := Option.map_eq_some_iff.mp timedToo
    exact Timestamp.round_le_round unit (inOrder early first late second)

theorem time_of_mem_pieces {p q : Point} {width : Width} {limit : Nat}
    (piece : q ∈ LineRecord.pieces width limit p) : q.time = p.time := by
  unfold LineRecord.pieces at piece
  split at piece
  · rw [List.mem_singleton.mp piece]
  · exact (key_time_of_mem_split piece).2

/-- What goes out for points in order is in order. -/
theorem pairwise_pieces {points : List Point} (inOrder : points.Pairwise InOrder)
    (width : Width) (limit : Nat) :
    (points.flatMap (LineRecord.pieces width limit)).Pairwise InOrder := by
  refine List.pairwise_flatMap.mpr ⟨?_, ?_⟩
  · intro p _
    refine List.pairwise_of_forall_mem_list fun q first r second => ?_
    exact .of_time_eq ((time_of_mem_pieces first).trans (time_of_mem_pieces second).symm)
  · refine inOrder.imp fun ordered q first r second => ?_
    unfold InOrder
    rw [time_of_mem_pieces first, time_of_mem_pieces second]
    exact ordered

theorem wireLine_of_time {p : Point} {time : Timestamp} (timed : p.time = some time) :
    LineRecord.wireLine p = p.key ++ Octet.space :: p.fields.bytes ++
      Octet.space :: Utf8.encodeChars (Decimal.integer time.toInt) ++ [Octet.newline] := by
  simp [LineRecord.wireLine, LineRecord.line, line, timed, Timestamp.encode]

end Point

namespace Writer

variable {σ : Type} [Sink σ]

/-- Rounding keeps the order of times, and so points with times in order go out in lines that end
in times in order. -/
theorem write_keeps_time_order (width : Width) (writer : Writer σ) (batch : RecordBatch Point) :
    (∀ (unit : Duration) (p q : Point) (earlier later : Timestamp),
      p.time = some earlier → q.time = some later → earlier ≤ later →
      ∃ first second, (p.round unit).time = some first ∧ (q.round unit).time = some second ∧
        first ≤ second) ∧
    Exchange writer.sink (writer.write width batch).deliveries
      (writer.write width batch).writer.sink ∧
    ∃ groups : List (List Point), groups.flatten = batch.pieces width writer.payloadSize ∧
      (writer.write width batch).deliveries.map (·.message) =
        groups.map (·.flatMap LineRecord.wireLine) ∧
      (∀ p ∈ groups.flatten, ∀ time, p.time = some time →
        LineRecord.wireLine p = p.key ++ Octet.space :: p.fields.bytes ++
          Octet.space :: Utf8.encodeChars (Decimal.integer time.toInt) ++ [Octet.newline]) ∧
      ((Point.times batch.records).Pairwise (· ≤ ·) →
        (Point.times groups.flatten).Pairwise (· ≤ ·)) := by
  refine ⟨?_, (writer.write_messages width batch).2, ?_⟩
  · intro unit p q earlier later timed timedToo le
    refine ⟨_, _, ?_, ?_, Timestamp.round_le_round unit le⟩
    · simp only [Point.round, timed, Option.map_some]
    · simp only [Point.round, timedToo, Option.map_some]
  · obtain ⟨groups, flatten, -, messages, -⟩ := writer.write_groups width batch
    refine ⟨groups, flatten, messages, fun p _ time => Point.wireLine_of_time, ?_⟩
    intro ordered
    rw [flatten, Point.pairwise_times_iff]
    apply Point.pairwise_pieces
    rw [RecordBatch.rounded, List.pairwise_map]
    exact (Point.pairwise_times_iff.mp ordered).imp fun inOrder => inOrder.roundTo _

/-- The first time is rounded down. The others stay, for their second is out of range, and one
point has no time. -/
theorem write_keeps_time_order_last_second :
    let p (time : Option Timestamp) : Point := ⟨[0x6d], .ofFields [("a", .integer 1)], time⟩
    let first : Timestamp := 9223372036400000000
    let second : Timestamp := 9223372036500000000
    let batch : RecordBatch Point :=
      ⟨"s", [p (some first), p (some second), p none, p (some Int64.maxValue)]⟩
    let writer := create (Recorder.failing [1]) 60
    first ≤ second ∧ (Point.times batch.records).Pairwise (· ≤ ·) ∧
    (∃ early late, ((p (some first)).round ⟨1, 0⟩).time = some early ∧
      ((p (some second)).round ⟨1, 0⟩).time = some late ∧ early ≤ late) ∧
    ∃ groups : List (List Point), groups.flatten = batch.pieces .machine 60 ∧
      Point.times groups.flatten = [9223372036000000000, second, Int64.maxValue] ∧
      (writer.write .machine batch).deliveries.map (·.message) =
        groups.map (·.flatMap LineRecord.wireLine) ∧
      (Point.times groups.flatten).Pairwise (· ≤ ·) := by
  intro p first second batch writer
  have le : first ≤ second := by decide
  have ordered : (Point.times batch.records).Pairwise (· ≤ ·) := by decide
  obtain ⟨rounds, -, groups, flatten, messages, -, kept⟩ :=
    writer.write_keeps_time_order .machine batch
  have times : Point.times (batch.pieces .machine 60) =
      [9223372036000000000, second, Int64.maxValue] := by decide +kernel
  exact ⟨le, ordered, rounds ⟨1, 0⟩ (p (some first)) (p (some second)) first second rfl rfl le,
    groups, flatten, flatten ▸ times, messages, kept ordered⟩

end Writer

end SeriesWire
