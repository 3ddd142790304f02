import Mathlib.Algebra.Group.Nat.Defs
import SeriesWire.Proofs.Point.Rounding

/-! Which time a rounded time is: of all multiples of the unit the nearest, and of two that are
equally near the later one, however many nanoseconds the unit has. Only where that multiple is no
timestamp does the time stay as it is. Signed numbers of 128 bits hold all that comes up on the
way, and nothing but the time of a point changes. -/
namespace SeriesWire

/-- A multiple of the unit. No other one is nearer to the time, and none as near is later. -/
structure IsNearestMultiple (unit : Nat) (time multiple : Int) : Prop where
  divides : (unit : Int) ∣ multiple
  nearest : ∀ other : Int, (unit : Int) ∣ other →
    (time - multiple).natAbs ≤ (time - other).natAbs
  latest : ∀ other : Int, (unit : Int) ∣ other →
    (time - other).natAbs = (time - multiple).natAbs → other ≤ multiple

theorem IsNearestMultiple.unique {unit : Nat} {time first second : Int}
    (one : IsNearestMultiple unit time first) (other : IsNearestMultiple unit time second) :
    first = second := by
  have equallyNear : (time - first).natAbs = (time - second).natAbs :=
    Nat.le_antisymm (one.nearest second other.divides) (other.nearest first one.divides)
  exact Int.le_antisymm (other.latest first one.divides equallyNear)
    (one.latest second other.divides equallyNear.symm)

theorem nearestMultiple_bounds {unit : Nat} (positive : 0 < unit) (time : Int) :
    2 * time - unit < 2 * nearestMultiple unit time ∧
      2 * nearestMultiple unit time ≤ 2 * time + unit := by
  have begun := Int.emod_nonneg time (Int.natCast_ne_zero_iff_pos.mpr positive)
  have ended := Int.emod_lt_of_pos time (Int.natCast_pos.mpr positive)
  unfold nearestMultiple
  dsimp only
  split <;> omega

theorem isNearestMultiple_nearestMultiple {unit : Nat} (positive : 0 < unit) (time : Int) :
    IsNearestMultiple unit time (nearestMultiple unit time) := by
  obtain ⟨above, below⟩ := nearestMultiple_bounds positive time
  have divides := dvd_nearestMultiple unit time
  -- Another multiple is at least one unit away from this one.
  have apart (other : Int) (multiple : (unit : Int) ∣ other)
      (different : other ≠ nearestMultiple unit time) :
      unit ≤ (other - nearestMultiple unit time).natAbs := by
    have distance := Int.natAbs_dvd_natAbs.mpr (Int.dvd_sub multiple divides)
    rw [Int.natAbs_natCast] at distance
    exact Nat.le_of_dvd (Int.natAbs_pos.mpr (by omega)) distance
  constructor
  case divides => exact divides
  case nearest =>
    intro other multiple
    by_cases same : other = nearestMultiple unit time
    · exact Nat.le_of_eq (by rw [same])
    · have far := apart other multiple same
      omega
  case latest =>
    intro other multiple equallyNear
    by_cases same : other = nearestMultiple unit time
    · exact Int.le_of_eq same
    · have far := apart other multiple same
      omega

theorem nearestMultiple_le_nearestMultiple {unit : Nat} (positive : 0 < unit) {earlier later : Int}
    (le : earlier ≤ later) : nearestMultiple unit earlier ≤ nearestMultiple unit later := by
  have below := (nearestMultiple_bounds positive earlier).2
  have above := (nearestMultiple_bounds positive later).1
  refine Int.not_lt.mp fun crossed => ?_
  have distance : (unit : Int) ∣ nearestMultiple unit earlier - nearestMultiple unit later :=
    Int.dvd_sub (dvd_nearestMultiple unit earlier) (dvd_nearestMultiple unit later)
  have far := Int.le_of_dvd (by omega) distance
  omega

/-- A number, if 128 bits hold it together with its sign. -/
def wide? (number : Int) : Option Int :=
  if -(2 ^ 127 : Nat) ≤ number ∧ number < (2 ^ 127 : Nat) then some number else none

/-- The nearest multiple with every number on the way held in 128 bits. -/
def nearestMultiple? (unit time : Int) : Option Int := do
  let past ← wide? (time % unit)
  if (← wide? (past + past)) < unit then wide? (time - past)
  else wide? (time + (← wide? (unit - past)))

/-- Rounding in 128 bits; nothing if a number needs more. -/
def Timestamp.round? (unit : Duration) (time : Timestamp) : Option Timestamp := do
  let nanos ← wide? unit.toNanos
  if nanos = 0 then some time
  else some ((ofInt? (← nearestMultiple? nanos time.toInt)).getD time)

theorem Duration.toNanos_lt (unit : Duration) : unit.toNanos < 2 ^ 94 := by
  have seconds := unit.seconds.toNat_lt
  have nanos := unit.nanos.isLt
  unfold toNanos
  omega

theorem nearestMultiple?_eq {unit : Nat} {time : Int} (positive : 0 < unit) (short : unit < 2 ^ 94)
    (early : -(2 ^ 63 : Nat) ≤ time) (late : time < (2 ^ 63 : Nat)) :
    nearestMultiple? unit time = some (nearestMultiple unit time) := by
  have begun := Int.emod_nonneg time (Int.natCast_ne_zero_iff_pos.mpr positive)
  have ended := Int.emod_lt_of_pos time (Int.natCast_pos.mpr positive)
  have wide {number : Int} (least : -(2 ^ 96 : Nat) ≤ number) (most : number ≤ (2 ^ 96 : Nat)) :
      wide? number = some number := if_pos (by omega)
  simp only [nearestMultiple?, nearestMultiple, Option.bind_eq_bind]
  rw [wide (by omega) (by omega), Option.bind_some, wide (by omega) (by omega), Option.bind_some]
  split
  · exact wide (by omega) (by omega)
  · rw [wide (by omega) (by omega), Option.bind_some]
    exact wide (by omega) (by omega)

theorem Timestamp.round?_eq (unit : Duration) (time : Timestamp) :
    round? unit time = some (round unit time) := by
  have short := unit.toNanos_lt
  have early : -(2 ^ 63 : Nat) ≤ time.toInt := time.le_toInt
  have late : time.toInt < (2 ^ 63 : Nat) := time.toInt_lt
  have wide : wide? unit.toNanos = some (unit.toNanos : Int) := if_pos (by omega)
  rw [round?, wide, Option.bind_eq_bind, Option.bind_some]
  by_cases zero : unit.toNanos = 0
  · rw [if_pos (Int.natCast_eq_zero.mpr zero), round_of_zero zero]
  · have computed := nearestMultiple?_eq (Nat.pos_of_ne_zero zero) short early late
    rw [if_neg (mt Int.natCast_eq_zero.mp zero), computed, Option.bind_some,
      round_of_ne_zero zero]

namespace Timestamp

theorem exists_toInt_eq {nanos : Int} (early : -(2 ^ 63 : Nat) ≤ nanos)
    (late : nanos < (2 ^ 63 : Nat)) : ∃ time : Timestamp, time.toInt = nanos :=
  ⟨Int64.ofInt nanos, Int64.toInt_ofInt_of_le early late⟩

theorem round_of_toInt_eq {unit : Duration} (positive : 0 < unit.toNanos) {time rounded : Timestamp}
    (inRange : rounded.toInt = nearestMultiple unit.toNanos time.toInt) :
    round unit time = rounded := by
  rw [round_of_ne_zero (Nat.ne_of_gt positive), ofInt?_eq_some_iff.mpr inRange, Option.getD_some]

theorem round_of_outside {unit : Duration} {time : Timestamp}
    (outside : ∀ rounded : Timestamp,
      rounded.toInt ≠ nearestMultiple unit.toNanos time.toInt) : round unit time = time := by
  by_cases zero : unit.toNanos = 0
  · exact round_of_zero zero time
  · rcases round_cases zero time with nearest | ⟨-, same⟩
    · exact absurd nearest (outside _)
    · exact same

end Timestamp

/-- Rounding sets the time of a point to the nearest multiple of the unit, of two to the later,
if that is a timestamp, and else changes nothing; no number on the way needs more than 128 bits. -/
theorem Point.round_to_nearest_multiple (unit : Duration) (p : Point) :
    (p.round unit).key = p.key ∧ (p.round unit).fields = p.fields ∧
    (unit.toNanos = 0 ∨ p.time = none → p.round unit = p) ∧
    ∀ time, p.time = some time →
      Timestamp.round? unit time = (p.round unit).time ∧
      (0 < unit.toNanos → ∃ nearest,
        (∀ multiple, IsNearestMultiple unit.toNanos time.toInt multiple ↔ multiple = nearest) ∧
        (-(2 ^ 63 : Nat) ≤ nearest ∧ nearest < (2 ^ 63 : Nat) →
          ∃ rounded : Timestamp, rounded.toInt = nearest ∧ (p.round unit).time = some rounded) ∧
        (nearest < -(2 ^ 63 : Nat) ∨ (2 ^ 63 : Nat) ≤ nearest → p.round unit = p)) := by
  refine ⟨rfl, rfl, ?_, ?_⟩
  · intro idle
    have same : p.time.map (Timestamp.round unit) = p.time := by
      cases timed : p.time with
      | none => rfl
      | some time =>
        have zero := idle.resolve_right (by simp [timed])
        exact congrArg some (Timestamp.round_of_zero zero time)
    exact congrArg p.withTime same
  · intro time timed
    have rounds : (p.round unit).time = some (Timestamp.round unit time) := by
      simp only [round, timed, Option.map_some]
    refine ⟨by rw [Timestamp.round?_eq, rounds], fun positive => ?_⟩
    have nearest := isNearestMultiple_nearestMultiple positive time.toInt
    refine ⟨nearestMultiple unit.toNanos time.toInt, ?_, ?_, ?_⟩
    · intro multiple
      constructor
      · exact (·.unique nearest)
      · rintro rfl
        exact nearest
    · rintro ⟨early, late⟩
      obtain ⟨rounded, inRange⟩ := Timestamp.exists_toInt_eq early late
      refine ⟨rounded, inRange, ?_⟩
      rw [rounds, Timestamp.round_of_toInt_eq positive inRange]
    · intro outside
      have stays : Timestamp.round unit time = time := by
        apply Timestamp.round_of_outside
        intro rounded inRange
        have early : -(2 ^ 63 : Nat) ≤ rounded.toInt := rounded.le_toInt
        have late : rounded.toInt < (2 ^ 63 : Nat) := rounded.toInt_lt
        omega
      have same : (p.round unit).time = p.time := by rw [rounds, stays, timed]
      exact congrArg p.withTime same

/-- Halfway between two multiples the later one counts, before 1970 as well. The last timestamp of
all is halfway to a multiple that is no timestamp. -/
theorem Point.round_to_nearest_multiple_halfway :
    let unit : Duration := ⟨0, 2⟩
    let time : Timestamp := -5
    let p : Point := ⟨[0x6d], .ofFields [("a", .integer 1)], some time⟩
    let last := p.withTime (some Int64.maxValue)
    0 < unit.toNanos ∧ p.time = some time ∧ (p.round unit).time = some (-4) ∧
    last.round unit = last ∧
    ∃ nearest,
      (∀ multiple, IsNearestMultiple unit.toNanos time.toInt multiple ↔ multiple = nearest) ∧
      (-(2 ^ 63 : Nat) ≤ nearest ∧ nearest < (2 ^ 63 : Nat) →
        ∃ rounded : Timestamp, rounded.toInt = nearest ∧ (p.round unit).time = some rounded) ∧
      (nearest < -(2 ^ 63 : Nat) ∨ (2 ^ 63 : Nat) ≤ nearest → p.round unit = p) := by
  intro unit time p last
  have timed : p.time = some time := rfl
  have positive : 0 < unit.toNanos := by decide
  obtain ⟨-, -, -, told⟩ := p.round_to_nearest_multiple unit
  exact ⟨positive, timed, by decide, by decide +kernel, (told time timed).2 positive⟩

end SeriesWire
