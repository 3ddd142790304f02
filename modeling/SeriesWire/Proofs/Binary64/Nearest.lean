import Mathlib.Algebra.Group.Nat.Defs
import SeriesWire.Binary64

/-! Numbers between which nothing has to be rounded. A magnitude is the one nearest to its
own value, and with the sign it is the whole number. -/
namespace SeriesWire.Binary64

theorem roundHalfEven_mul (n : Nat) {d : Nat} (positive : 0 < d) :
    roundHalfEven (n * d) d = n := by
  simp [roundHalfEven, Nat.mul_mod_left, Nat.mul_div_cancel n positive, positive]

/-- The significand is below 2^53, and with a doubling at least 2^52. -/
theorem exists_significand (magnitude : Nat) :
    ∃ significand, magnitude = doublings magnitude * 2 ^ 52 + significand ∧
      units magnitude = significand * 2 ^ doublings magnitude ∧ significand < 2 ^ 53 ∧
      (doublings magnitude = 0 ∨ 2 ^ 52 ≤ significand) := by
  refine ⟨magnitude - doublings magnitude <<< 52, ?_, Nat.shiftLeft_eq _ _, ?_⟩
  all_goals
    simp only [doublings, Nat.shiftRight_eq_div_pow, Nat.shiftLeft_eq]
    omega

theorem nearestUnits_units (magnitude : Nat) {d : Nat} (positive : 0 < d) :
    nearestUnits (units magnitude * d) d = magnitude := by
  obtain ⟨significand, parts, value, below, normal⟩ := exists_significand magnitude
  have doubled : Nat.log2 (units magnitude) - 52 = doublings magnitude := by
    rcases normal with undoubled | normal
    · have small : units magnitude < 2 ^ 53 := by simpa [value, undoubled] using below
      by_cases zero : units magnitude = 0
      · simp [zero, undoubled]
      · have digits := (Nat.log2_lt zero).mpr small
        omega
    · have exact : Nat.log2 (units magnitude) = 52 + doublings magnitude := by
        have least : 2 ^ (52 + doublings magnitude) ≤ units magnitude := by
          rw [value, Nat.pow_add]
          exact Nat.mul_le_mul_right _ normal
        have most : units magnitude < 2 ^ (52 + doublings magnitude + 1) := by
          rw [value, Nat.add_right_comm, Nat.pow_add]
          exact Nat.mul_lt_mul_of_pos_right below (Nat.two_pow_pos _)
        have nonzero : units magnitude ≠ 0 := by
          have power := Nat.two_pow_pos (52 + doublings magnitude)
          omega
        exact (Nat.log2_eq_iff nonzero).mpr ⟨least, most⟩
      omega
  have multiple : units magnitude * d = significand * (d <<< doublings magnitude) := by
    rw [value, Nat.shiftLeft_eq, Nat.mul_assoc, Nat.mul_comm d]
  have step : 0 < d <<< doublings magnitude := by
    rw [Nat.shiftLeft_eq]
    exact Nat.mul_pos positive (Nat.two_pow_pos _)
  unfold nearestUnits
  simp only [Nat.mul_div_cancel _ positive, doubled]
  rw [multiple, roundHalfEven_mul _ step, Nat.shiftLeft_eq, ← parts]

theorem nearest_decimalUnits (magnitude : Nat) :
    nearest (decimalUnits magnitude) = magnitude := by
  have positive : 0 < scale := by decide +kernel
  exact nearestUnits_units magnitude positive

theorem eq_of_negative_eq_of_magnitude_eq {x y : Binary64} (sign : x.negative = y.negative)
    (magnitude : x.magnitude = y.magnitude) : x = y := by
  have xBits := UInt64.toNat_lt x.bits
  have yBits := UInt64.toNat_lt y.bits
  have bits : x.bits.toNat = y.bits.toNat := by
    simp only [negative, Binary64.magnitude, Nat.shiftLeft_eq, decide_eq_decide] at sign magnitude
    omega
  cases x
  cases y
  exact congrArg mk (UInt64.toNat_inj.mp bits)

end SeriesWire.Binary64
