import SeriesWire.Point.Round

/-! Rounding again. A rounded time is a multiple of the unit, and no multiple is nearer to it
than it is itself; a time whose nearest multiple is out of range stays as it is. So a time that
was rounded once does not move any more. -/
namespace SeriesWire

theorem dvd_nearestMultiple (unit : Nat) (time : Int) :
    (unit : Int) ∣ nearestMultiple unit time := by
  have earlier : (unit : Int) ∣ time - time % unit := Int.dvd_self_sub_emod
  have later : time + (unit - time % unit) = time - time % unit + unit := by omega
  simp only [nearestMultiple, later]
  split
  · exact earlier
  · exact Int.dvd_add earlier (Int.dvd_refl _)

theorem nearestMultiple_of_dvd {unit : Nat} {time : Int} (positive : 0 < unit)
    (multiple : (unit : Int) ∣ time) : nearestMultiple unit time = time := by
  have past : time % unit = 0 := Int.emod_eq_zero_of_dvd multiple
  simp [nearestMultiple, past, positive]

namespace Timestamp

theorem ofInt?_eq_some_iff {nanos : Int} {time : Timestamp} :
    ofInt? nanos = some time ↔ time.toInt = nanos := by
  unfold ofInt?
  constructor
  · intro found
    obtain ⟨⟨least, most⟩, same⟩ := Option.ite_none_right_eq_some.mp found
    obtain rfl := Option.some.inj same
    rw [Int64.toInt_minValue] at least
    rw [Int64.toInt_maxValue] at most
    exact Int64.toInt_ofInt_of_le least (by omega)
  · rintro rfl
    rw [if_pos ⟨time.minValue_le_toInt, time.toInt_le⟩, Int64.ofInt_toInt]

theorem round_of_zero {unit : Duration} (zero : unit.toNanos = 0) (time : Timestamp) :
    round unit time = time := if_pos zero

theorem round_of_ne_zero {unit : Duration} (nonzero : unit.toNanos ≠ 0) (time : Timestamp) :
    round unit time = (ofInt? (nearestMultiple unit.toNanos time.toInt)).getD time :=
  if_neg nonzero

/-- The two ways of rounding a time to a unit that is not zero. -/
theorem round_cases {unit : Duration} (nonzero : unit.toNanos ≠ 0) (time : Timestamp) :
    (round unit time).toInt = nearestMultiple unit.toNanos time.toInt ∨
    ofInt? (nearestMultiple unit.toNanos time.toInt) = none ∧ round unit time = time := by
  rw [round_of_ne_zero nonzero]
  cases found : ofInt? (nearestMultiple unit.toNanos time.toInt) with
  | none => exact .inr ⟨rfl, rfl⟩
  | some rounded => exact .inl (ofInt?_eq_some_iff.mp found)

theorem round_round (unit : Duration) (time : Timestamp) :
    round unit (round unit time) = round unit time := by
  by_cases zero : unit.toNanos = 0
  · rw [round_of_zero zero, round_of_zero zero]
  · rcases round_cases zero time with nearest | ⟨-, same⟩
    · have multiple : (unit.toNanos : Int) ∣ (round unit time).toInt := by
        rw [nearest]
        exact dvd_nearestMultiple _ _
      have again := nearestMultiple_of_dvd (Nat.pos_of_ne_zero zero) multiple
      rw [round_of_ne_zero zero, ofInt?_eq_some_iff.mpr again.symm, Option.getD_some]
    · rw [same, same]

end Timestamp

theorem Point.round_round (unit : Duration) (p : Point) :
    (p.round unit).round unit = p.round unit := by
  have twice : (p.time.map (Timestamp.round unit)).map (Timestamp.round unit) =
      p.time.map (Timestamp.round unit) := by
    cases p.time with
    | none => rfl
    | some time => exact congrArg some (Timestamp.round_round unit time)
  exact congrArg p.withTime twice

end SeriesWire
