import Mathlib.Algebra.Group.Nat.Defs
import SeriesWire.Proofs.FieldSet.Slices
import SeriesWire.Proofs.Point.Reachable

/-! Division as it is computed with words of 64 bits. Sizes have no sign, while the room for fields
has one and is compared with signs. A point whose line has less than 2^63 octets, as any line in
memory has, is divided as with numbers of any size: a size of 2^63 or more would be negative as a
signed word, but is never looked at as one, for the whole line fits into it. -/
namespace SeriesWire

namespace FieldSet

/-- The runs that `runsFrom` finds, with lengths compared as signed words. -/
def runsFromWords (room : Int64) (start next : Nat) (run : List Nat) : List Nat → List (List Nat)
  | [] => [run.reverse]
  | stop :: ends =>
    if run ≠ [] ∧ room < Int64.ofNat (stop - start) then
      run.reverse :: runsFromWords room next (stop + 1) [stop] ends
    else runsFromWords room start (stop + 1) (stop :: run) ends

def divideWords (set : FieldSet) (room : Int64) : List FieldSet :=
  cut 0 set.bytes (runsFromWords room 0 0 [] set.ends)

theorem runsFromWords_eq (room : Int64) (start next : Nat) (run : List Nat) {ends : List Nat}
    (short : ∀ stop ∈ ends, stop < 2 ^ 63) :
    runsFromWords room start next run ends = runsFrom room.toInt start next run ends := by
  induction ends generalizing start next run with
  | nil => rfl
  | cons stop ends ih =>
    obtain ⟨here, others⟩ := List.forall_mem_cons.mp short
    have length : (Int64.ofNat (stop - start)).toInt = (stop - start : Nat) :=
      Int64.toInt_ofNat_of_lt (Nat.lt_of_le_of_lt (Nat.sub_le stop start) here)
    simp only [runsFromWords, runsFrom, Int64.lt_iff_toInt_lt, length, ih _ _ _ others]

theorem le_length_of_mem_ends {set : FieldSet} (delimited : set.Delimited) {stop : Nat}
    (member : stop ∈ set.ends) : stop ≤ set.bytes.length := by
  obtain ⟨earlier, last⟩ := List.getLast?_eq_some_iff.mp delimited.last
  have ascending := delimited.ascending
  rw [last] at ascending member
  rcases List.mem_append.mp member with before | final
  · exact Nat.le_of_lt ((List.pairwise_append.mp ascending).2.2 stop before _ (by simp))
  · exact Nat.le_of_eq (List.mem_singleton.mp final)

end FieldSet

namespace Point

/-- The pieces of a point, with every size and difference taken in words that wrap around. -/
def splitWords (size : UInt64) (p : Point) : List Point :=
  let whole := UInt64.ofNat p.size
  let key := UInt64.ofNat p.key.length
  if p.time.isNone ∨ whole ≤ size then [p]
  else
    let timeLength := whole - key - UInt64.ofNat p.fields.bytes.length - 2
    let room := size.toInt64 - (key + timeLength + 2).toInt64
    (p.fields.divideWords room).map fun fields => { p with fields }

/-- The difference of a size and the rest of the line does not wrap around if both are short. -/
theorem toInt_room (p : Point) (time : Timestamp) {size : UInt64} (short : size.toNat < 2 ^ 63)
    (front : p.key.length + (Timestamp.encode time).length + 2 < 2 ^ 63) :
    (size.toInt64 -
        (UInt64.ofNat (p.key.length + (Timestamp.encode time).length + 2)).toInt64).toInt =
      p.room time size.toNat := by
  have signed : size.toInt64 = Int64.ofInt size.toNat := by
    rw [Int64.ofInt_eq_ofNat, ← UInt64.toInt64_ofNat', UInt64.ofNat_toNat]
  rw [signed, UInt64.toInt64_ofNat', ← Int64.ofInt_eq_ofNat, ← Int64.ofInt_sub]
  exact Int64.toInt_ofInt_of_le (by omega) (by omega)

/-- Words are enough for any point whose line has less than 2^63 octets. -/
theorem splitWords_eq {p : Point} (delimited : p.fields.Delimited) (short : p.size < 2 ^ 63)
    (size : UInt64) : p.splitWords size = p.split size.toNat := by
  have fitsWord : UInt64.ofNat p.size ≤ size ↔ p.size ≤ size.toNat := by
    rw [UInt64.le_iff_toNat_le, UInt64.toNat_ofNat', Nat.mod_eq_of_lt (by omega)]
  cases timed : p.time with
  | none => simp [splitWords, split, timed]
  | some time =>
    by_cases fits : p.size ≤ size.toNat
    · simp [splitWords, split, timed, fitsWord, fits]
    · have parts : p.size = p.key.length + 1 + p.fields.bytes.length +
          (1 + (Timestamp.encode time).length) := by
        simp only [Point.size, timed]
      have timeLength : UInt64.ofNat p.size - UInt64.ofNat p.key.length -
          UInt64.ofNat p.fields.bytes.length - 2 = UInt64.ofNat (Timestamp.encode time).length := by
        have two : (2 : UInt64) = UInt64.ofNat 2 := rfl
        rw [two, ← UInt64.ofNat_sub (by omega), ← UInt64.ofNat_sub (by omega),
          ← UInt64.ofNat_sub (by omega)]
        congr 1
        omega
      have front : UInt64.ofNat p.key.length + UInt64.ofNat (Timestamp.encode time).length + 2 =
          UInt64.ofNat (p.key.length + (Timestamp.encode time).length + 2) := by
        rw [UInt64.ofNat_add, UInt64.ofNat_add]
        rfl
      have shorter : size.toNat < 2 ^ 63 := by omega
      have room := p.toInt_room time shorter (by omega)
      have ends : ∀ stop ∈ p.fields.ends, stop < 2 ^ 63 := by
        intro stop member
        have bound := FieldSet.le_length_of_mem_ends delimited member
        omega
      simp only [splitWords, split, timed, fitsWord, fits, Option.isNone_some, Bool.false_eq_true,
        or_self, if_false, timeLength, front, FieldSet.divideWords, FieldSet.divide, FieldSet.runs,
        FieldSet.runsFromWords_eq _ _ _ _ ends, room]

end Point

end SeriesWire
