import SeriesWire.Proofs.Binary64.Nearest
import SeriesWire.Proofs.Decimal.Numeral

/-! The text of a float tells its bits. The shortest decimal of a magnitude reads back as that
magnitude, and the text tells the decimal. -/
namespace SeriesWire.Decimal

theorem nearest_onGrid {magnitude value grid digits : Nat}
    (hit : onGrid magnitude value grid = some digits) :
    Binary64.nearest (digits * 10 ^ grid) = magnitude := by
  unfold onGrid at hit
  simp only at hit
  split at hit
  next below above =>
    rw [beq_iff_eq] at below above
    split at hit
    · exact Option.some.inj hit ▸ below
    · split at hit
      · exact Option.some.inj hit ▸ above
      · -- Of two equally near multiples the even one is one of the two.
        obtain even | odd := Nat.mod_two_eq_zero_or_one (value / Nat.pow 10 grid)
        · rw [even] at hit
          exact Option.some.inj hit ▸ below
        · rw [odd] at hit
          exact Option.some.inj hit ▸ above
  next below _ => exact Option.some.inj hit ▸ beq_iff_eq.mp below
  next _ above => exact Option.some.inj hit ▸ beq_iff_eq.mp above
  next => cases hit

/-- What holds of a value and of all hits on its grids holds of what is found. -/
theorem search_induction {P : Nat → Prop} {magnitude value : Nat} (itself : P value)
    (hits : ∀ grid digits, onGrid magnitude value grid = some digits → P (digits * 10 ^ grid))
    (grid : Nat) : P ((search magnitude value grid).1 * 10 ^ (search magnitude value grid).2) := by
  induction grid with
  | zero => simpa [search] using itself
  | succ grid ih =>
    unfold search
    split
    next digits hit => exact hits (grid + 1) digits hit
    next => exact ih

theorem shortest_cases {P : Scaled → Prop} {magnitude : Nat} (zero : magnitude = 0 → P ⟨0, 0⟩)
    (found : ∀ grid, P ⟨(search magnitude (Binary64.decimalUnits magnitude) grid).1,
      (search magnitude (Binary64.decimalUnits magnitude) grid).2 - 1074⟩) :
    P (shortest magnitude) := by
  unfold shortest
  split
  · exact zero ‹_›
  · exact found (coarsest (Binary64.decimalUnits magnitude))

/-- The shortest decimal reads back, in units of 10^-1074. -/
theorem nearest_shortest (magnitude : Nat) :
    ∃ grid : Nat, (shortest magnitude).exponent = grid - 1074 ∧
      Binary64.nearest ((shortest magnitude).digits * 10 ^ grid) = magnitude := by
  have itself := Binary64.nearest_decimalUnits magnitude
  revert itself
  apply shortest_cases (P := fun x => Binary64.nearest (Binary64.decimalUnits magnitude) =
    magnitude → ∃ grid : Nat, x.exponent = grid - 1074 ∧
      Binary64.nearest (x.digits * 10 ^ grid) = magnitude)
  · rintro rfl itself
    have nothing : Binary64.decimalUnits 0 = 0 := by simp [Binary64.decimalUnits, Binary64.units]
    rw [nothing] at itself
    refine ⟨1074, rfl, ?_⟩
    rw [Nat.zero_mul]
    exact itself
  · intro grid itself
    refine ⟨_, rfl, ?_⟩
    exact search_induction (P := (Binary64.nearest · = magnitude)) itself
      (fun _ _ => nearest_onGrid) grid

theorem shortest_numeral_injective {first second : Nat}
    (same : (shortest first).numeral.text = (shortest second).numeral.text) : first = second := by
  obtain ⟨grid, exponent, reads⟩ := nearest_shortest first
  obtain ⟨otherGrid, otherExponent, readsToo⟩ := nearest_shortest second
  have numerals := Numeral.text_injective (shortest first).isDecimal_numeral
    (shortest second).isDecimal_numeral same
  have values := congrArg Numeral.value numerals
  rw [Scaled.value_numeral, Scaled.value_numeral, exponent, otherExponent] at values
  have units : (shortest first).digits * 10 ^ grid = (shortest second).digits * 10 ^ otherGrid := by
    have ten : (10 : ℚ) ≠ 0 := by norm_num
    rw [zpow_sub₀ ten, zpow_sub₀ ten, mul_div_assoc', mul_div_assoc',
      div_left_inj' (zpow_ne_zero _ ten), zpow_natCast, zpow_natCast] at values
    exact_mod_cast values
  rw [← reads, units, readsToo]

theorem mem_float {x : Binary64} {c : Char} (member : c ∈ float x) :
    c.isDigit ∨ c = '-' ∨ c = 'e' ∨ c = '.' := by
  have decimal := (shortest x.magnitude).isDecimal_numeral
  unfold float at member
  simp only at member
  split at member
  · rcases List.mem_cons.mp member with rfl | part
    · exact .inr (.inl rfl)
    · exact Numeral.mem_text decimal part
  · exact Numeral.mem_text decimal member

/-- Different floats have different texts, the two zeros included. -/
theorem float_injective {x y : Binary64} (same : float x = float y) : x = y := by
  have decimal (z : Binary64) := (shortest z.magnitude).isDecimal_numeral
  unfold float at same
  simp only at same
  split at same
  next negative =>
    split at same
    next also =>
      exact Binary64.eq_of_negative_eq_of_magnitude_eq (negative.trans also.symm)
        (shortest_numeral_injective (List.cons.inj same).2)
    next => exact absurd same.symm (Numeral.text_head_ne_minus (decimal y) _)
  next positive =>
    split at same
    next => exact absurd same (Numeral.text_head_ne_minus (decimal x) _)
    next also =>
      exact Binary64.eq_of_negative_eq_of_magnitude_eq
        ((Bool.eq_false_iff.mpr positive).trans (Bool.eq_false_iff.mpr also).symm)
        (shortest_numeral_injective same)

end SeriesWire.Decimal
