import SeriesWire.Decimal.Digits

/-! The digits of a number tell it, and so do they behind a sign. -/
namespace SeriesWire.Decimal

theorem isDigit_of_mem_natural {n : Nat} {c : Char} (member : c ∈ natural n) : c.isDigit :=
  Nat.isDigit_of_mem_toDigits (by decide) (by decide) member

theorem ofDigitChars_natural (n : Nat) : Nat.ofDigitChars 10 (natural n) 0 = n :=
  Nat.ofDigitChars_ten_toDigits

theorem natural_injective {m n : Nat} (same : natural m = natural n) : m = n := by
  rw [← ofDigitChars_natural m, same, ofDigitChars_natural]

theorem isDigit_or_eq_of_mem_integer {i : Int} {c : Char} (member : c ∈ integer i) :
    c.isDigit ∨ c = '-' := by
  unfold integer at member
  split at member
  · rcases List.mem_cons.mp member with minus | digit
    · exact .inr minus
    · exact .inl (isDigit_of_mem_natural digit)
  · exact .inl (isDigit_of_mem_natural member)

theorem natural_head_ne {n : Nat} {c : Char} (other : c.isDigit = false) :
    ∀ rest, natural n ≠ c :: rest := by
  intro rest same
  have digit := isDigit_of_mem_natural (n := n) (c := c) (by simp [same])
  simp [other] at digit

theorem integer_injective {i j : Int} (same : integer i = integer j) : i = j := by
  unfold integer at same
  split at same
  next negative =>
    split at same
    next also =>
      have digits := natural_injective (List.cons.inj same).2
      omega
    next => exact absurd same.symm (natural_head_ne rfl _)
  next positive =>
    split at same
    next => exact absurd same (natural_head_ne rfl _)
    next also =>
      have digits := natural_injective same
      omega

end SeriesWire.Decimal
