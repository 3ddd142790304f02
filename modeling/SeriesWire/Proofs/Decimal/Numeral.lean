import Mathlib.Algebra.Field.Rat
import Mathlib.Tactic.Positivity
import Mathlib.Tactic.Ring
import SeriesWire.Decimal.FloatText
import SeriesWire.Proofs.Decimal.Digits
import SeriesWire.Proofs.Text.Run

/-! What a written number says. Its text tells its parts, and in whatever form a decimal is
written, the parts make up the decimal. -/
namespace SeriesWire.Decimal

namespace Numeral

/-- Both sides of the point are digits. -/
structure IsDecimal (n : Numeral) : Prop where
  whole : ∀ c ∈ n.whole, c.isDigit
  fraction : ∀ c ∈ n.fraction, c.isDigit

def exponentText : Option Int → List Char
  | none => []
  | some e => 'e' :: integer e

/-- The text behind the digits on the left of the point. -/
def behind (n : Numeral) : List Char :=
  (if n.fraction.isEmpty then [] else '.' :: n.fraction) ++ exponentText n.exponent

/-- The number that is written. -/
def value (n : Numeral) : ℚ :=
  Nat.ofDigitChars 10 (n.whole ++ n.fraction) 0 * 10 ^ (n.exponent.getD 0 - n.fraction.length)

theorem text_eq (n : Numeral) : n.text = n.whole ++ n.behind := by
  unfold text behind
  cases n.exponent <;> simp [exponentText]

theorem exponentText_head (exponent : Option Int) :
    ∀ c ∈ (exponentText exponent).head?, ¬c.isDigit := by
  cases exponent <;> simp [exponentText]

theorem behind_head (n : Numeral) : ∀ c ∈ n.behind.head?, ¬c.isDigit := by
  unfold behind
  split
  · exact exponentText_head n.exponent
  · simp

theorem mem_exponentText {exponent : Option Int} {c : Char} (member : c ∈ exponentText exponent) :
    c.isDigit ∨ c = '-' ∨ c = 'e' := by
  cases exponent with
  | none => cases member
  | some e =>
    rcases List.mem_cons.mp member with rfl | part
    · exact .inr (.inr rfl)
    · exact (isDigit_or_eq_of_mem_integer part).imp id .inl

theorem mem_text {n : Numeral} (decimal : n.IsDecimal) {c : Char} (member : c ∈ n.text) :
    c.isDigit ∨ c = '-' ∨ c = 'e' ∨ c = '.' := by
  rw [text_eq, behind] at member
  rcases List.mem_append.mp member with whole | behind
  · exact .inl (decimal.whole c whole)
  · rcases List.mem_append.mp behind with point | exponent
    · split at point
      · cases point
      · rcases List.mem_cons.mp point with rfl | digit
        · simp
        · exact .inl (decimal.fraction c digit)
    · rcases mem_exponentText exponent with digit | minus | letter
      · exact .inl digit
      · exact .inr (.inl minus)
      · exact .inr (.inr (.inl letter))

/-- A text begins with a digit, or where it has none, with a point or the letter. -/
theorem text_head_ne_minus {n : Numeral} (decimal : n.IsDecimal) (rest : List Char) :
    n.text ≠ '-' :: rest := by
  intro same
  rw [text_eq] at same
  cases whole : n.whole with
  | cons c digits =>
    rw [whole, List.cons_append, List.cons.injEq] at same
    have digit := decimal.whole c (by simp [whole])
    simp [same.1] at digit
  | nil =>
    rw [whole, List.nil_append, behind] at same
    split at same
    · cases exponent : n.exponent <;> simp [exponent, exponentText] at same
    · simp at same

theorem exponentText_injective {first second : Option Int}
    (same : exponentText first = exponentText second) : first = second := by
  cases first with
  | none =>
    cases second with
    | none => rfl
    | some e => cases same
  | some d =>
    cases second with
    | none => cases same
    | some e => exact congrArg some (integer_injective (List.cons.inj same).2)

theorem text_injective {first second : Numeral} (one : first.IsDecimal) (two : second.IsDecimal)
    (same : first.text = second.text) : first = second := by
  obtain ⟨whole, fraction, exponent⟩ := first
  obtain ⟨otherWhole, otherFraction, otherExponent⟩ := second
  rw [text_eq, text_eq] at same
  obtain ⟨wholes, rest⟩ := run_append_inj one.whole two.whole (behind_head _) (behind_head _) same
  have parts : fraction = otherFraction ∧ exponent = otherExponent := by
    cases fraction with
    | nil =>
      cases otherFraction with
      | nil => exact ⟨rfl, exponentText_injective rest⟩
      | cons => cases exponent <;> simp [behind, exponentText] at rest
    | cons =>
      cases otherFraction with
      | nil => cases otherExponent <;> simp [behind, exponentText] at rest
      | cons =>
        obtain ⟨digits, exponents⟩ := run_append_inj one.fraction two.fraction
          (exponentText_head _) (exponentText_head _) (List.cons.inj rest).2
        exact ⟨digits, exponentText_injective exponents⟩
  simp only at wholes
  rw [wholes, parts.1, parts.2]

end Numeral

namespace Scaled

theorem isDecimal_numeral (x : Scaled) : x.numeral.IsDecimal := by
  have zero : ∀ n, ∀ c ∈ zeros n, c.isDigit := by
    intro n c member
    rw [(List.mem_replicate.mp member).2]
    rfl
  have digit : ∀ c ∈ natural x.digits, c.isDigit := fun c => isDigit_of_mem_natural
  unfold numeral
  simp only
  split
  · exact ⟨by simpa [or_imp, forall_and] using ⟨digit, zero _⟩, by simp⟩
  · split
    · exact ⟨fun c member => digit c (List.mem_of_mem_take member),
        fun c member => digit c (List.mem_of_mem_drop member)⟩
    · split
      · exact ⟨by simp, by simpa [or_imp, forall_and] using ⟨zero _, digit⟩⟩
      · exact ⟨fun c member => digit c (List.mem_of_mem_take member),
          fun c member => digit c (List.mem_of_mem_drop member)⟩

theorem value_numeral (x : Scaled) : x.numeral.value = x.digits * 10 ^ x.exponent := by
  have read := ofDigitChars_natural x.digits
  have positive : 0 < (natural x.digits).length := Nat.length_toDigits_pos
  -- The exponent that is written and the digits behind the point make up the exponent.
  have value (n : Numeral) (digits : Nat.ofDigitChars 10 (n.whole ++ n.fraction) 0 = x.digits)
      (place : n.exponent.getD 0 - n.fraction.length = x.exponent) :
      n.value = x.digits * 10 ^ x.exponent := by
    rw [Numeral.value, digits, place]
  unfold numeral
  simp only
  split
  next whole =>
    obtain ⟨zeroes, exponent⟩ := Int.eq_ofNat_of_zero_le whole.1
    simp only [Numeral.value, exponent, Int.toNat_natCast, Nat.ofDigitChars_append, zeros,
      Nat.ofDigitChars_replicate_zero, read, Option.getD_none, List.length_singleton]
    simp only [Nat.ofDigitChars_cons, Nat.ofDigitChars_nil, zpow_natCast]
    push_cast
    ring
  next notWhole =>
    split
    next inside =>
      refine value _ (by simpa only [List.take_append_drop] using read) ?_
      simp only [Option.getD_none, List.length_drop]
      omega
    next =>
      split
      next small =>
        refine value _ ?_ ?_
        · simpa [Nat.ofDigitChars_append, Nat.ofDigitChars_cons, zeros] using read
        · simp only [Option.getD_none, List.length_append, zeros, List.length_replicate]
          omega
      next =>
        refine value _ (by simpa only [List.take_append_drop] using read) ?_
        simp only [Option.getD_some, List.length_drop]
        omega

end Scaled

end SeriesWire.Decimal
