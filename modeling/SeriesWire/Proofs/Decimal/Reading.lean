import SeriesWire.Decimal.Reading
import SeriesWire.Proofs.Decimal.Digits

/-! What texts of digits say. Zeros may lead them, so a number has many texts, but only one
without a zero that could be left out. Whatever bound is set, a text of digits is read as its
number exactly if that is within the bound. -/
namespace SeriesWire

namespace Text

theorem digitValue_of_isDigit {c : Char} (digit : c.isDigit) :
    digitValue c = c.toNat - '0'.toNat := if_pos digit

theorem digitValue_lt_ten_iff {c : Char} : digitValue c < 10 ↔ c.isDigit := by
  constructor
  · intro small
    unfold digitValue at small
    split at small
    next digit => exact digit
    next =>
      exfalso
      split at small
      · omega
      · split at small <;> omega
  · intro digit
    rw [digitValue_of_isDigit digit]
    have range := Char.isDigit_iff_toNat.mp digit
    have nine : '9'.toNat = '0'.toNat + 9 := rfl
    omega

theorem digitsValue_eq_ofDigitChars {ds : List Char} (digits : ∀ c ∈ ds, c.isDigit) :
    digitsValue 10 ds = Nat.ofDigitChars 10 ds 0 := by
  rw [digitsValue, Nat.ofDigitChars_eq_foldl]
  generalize 0 = value
  induction ds generalizing value with
  | nil => rfl
  | cons d ds ih =>
    rw [List.forall_mem_cons] at digits
    rw [List.foldl_cons, List.foldl_cons, digitValue_of_isDigit digits.1, Nat.mul_comm]
    exact ih digits.2 _

end Text

namespace Decimal

/-- The text is of digits, with zeros in front or not, and they make the number. -/
structure Denotes (text : List Char) (n : Nat) : Prop where
  nonempty : text ≠ []
  digits : ∀ c ∈ text, c.isDigit
  value : Nat.ofDigitChars 10 text 0 = n

theorem natural_digit {c : Char} (digit : c.isDigit) : natural (c.toNat - '0'.toNat) = [c] := by
  have small := Text.digitValue_lt_ten_iff.mpr digit
  rw [Text.digitValue_of_isDigit digit] at small
  rw [natural, Nat.toDigits_of_lt_base small]
  have range := Char.isDigit_iff_toNat.mp digit
  have same : (c.toNat - '0'.toNat).digitChar.toNat = c.toNat := by
    rw [Nat.toNat_digitChar_of_lt_ten small]
    exact Nat.add_sub_cancel' range.1
  rw [Char.toNat_inj.mp same]

/-- Digits behind a number other than zero are the last digits of a larger one. -/
theorem natural_ofDigitChars {n : Nat} (positive : 0 < n) {ds : List Char}
    (digits : ∀ c ∈ ds, c.isDigit) : natural (Nat.ofDigitChars 10 ds n) = natural n ++ ds := by
  induction ds generalizing n with
  | nil => rw [Nat.ofDigitChars_nil, List.append_nil]
  | cons d ds ih =>
    rw [List.forall_mem_cons] at digits
    have small := Text.digitValue_lt_ten_iff.mpr digits.1
    rw [Text.digitValue_of_isDigit digits.1] at small
    have longer : natural (10 * n + (d.toNat - '0'.toNat)) = natural n ++ [d] := by
      rw [← natural_digit digits.1]
      exact (Nat.toDigits_append_toDigits (by decide) positive small).symm
    rw [Nat.ofDigitChars_cons, ih (by omega) digits.2, longer, List.append_assoc]
    rfl

/-- A text without a zero that could be left out is the text of its number. -/
theorem Denotes.eq_natural {text : List Char} {n : Nat} (denotes : Denotes text n)
    (short : text.head? = some '0' → text.length = 1) : text = natural n := by
  obtain ⟨nonempty, digits, rfl⟩ := denotes
  cases text with
  | nil => exact absurd rfl nonempty
  | cons d ds =>
    rw [List.forall_mem_cons] at digits
    by_cases zero : d = '0'
    · subst zero
      rw [List.length_eq_zero_iff.mp (Nat.succ.inj (short rfl))]
      rfl
    · have positive : 0 < d.toNat - '0'.toNat := by
        have range := Char.isDigit_iff_toNat.mp digits.1
        have other : d.toNat ≠ '0'.toNat := fun same => zero (Char.toNat_inj.mp same)
        omega
      rw [Nat.ofDigitChars_cons, Nat.mul_zero, Nat.zero_add,
        natural_ofDigitChars positive digits.2, natural_digit digits.1]
      rfl

theorem denotes_natural (n : Nat) : Denotes (natural n) n :=
  ⟨Nat.toDigits_ne_nil, fun _ => isDigit_of_mem_natural, ofDigitChars_natural n⟩

/-- No zero leads the text of a number, unless it is all of it. -/
theorem length_natural_of_head? {n : Nat} (zero : (natural n).head? = some '0') :
    (natural n).length = 1 := by
  induction n using Nat.strongRecOn with
  | ind n ih =>
    unfold natural at *
    rw [Nat.toDigits_eq_if (by decide)] at zero ⊢
    split at zero
    next small => rw [if_pos small]; rfl
    next large =>
      exfalso
      rw [List.head?_append, List.head?_eq_some_head Nat.toDigits_ne_nil, Option.some_or,
        ← List.head?_eq_some_head] at zero
      have one := ih (n / 10) (by omega) zero
      have small := (Nat.length_toDigits_le_iff (by decide) (by decide)).mp (Nat.le_of_eq one)
      rw [Nat.toDigits_of_lt_base small, List.head?_cons, Option.some.injEq,
        Nat.digitChar_eq_zero] at zero
      omega

theorem Denotes.digitsWithin?_eq_some_iff {text : List Char} {n most : Nat}
    (denotes : Denotes text n) {value : Nat} :
    Text.digitsWithin? 10 most text = some value ↔ value = n ∧ n ≤ most := by
  rw [Text.digitsWithin?_eq (by decide), Text.digitsValue_eq_ofDigitChars denotes.digits,
    denotes.value]
  split
  next within => simp [within, eq_comm]
  next beyond => simp [beyond]

theorem foldlM_readDigit_of_digits {most value n : Nat} {ds : List Char}
    (digits : ∀ c ∈ ds, c.isDigit) (within : ds.foldlM (Text.nextWithin? 10 most) value = some n) :
    ds.foldlM (readDigit most) value = .ok n := by
  induction ds generalizing value with
  | nil => cases within; rfl
  | cons d ds ih =>
    rw [List.forall_mem_cons] at digits
    have small := Text.digitValue_lt_ten_iff.mpr digits.1
    rw [List.foldlM_cons, Text.nextWithin?] at within
    split at within
    next fits =>
      rw [List.foldlM_cons, readDigit, if_neg (by omega), if_neg (by omega)]
      exact ih digits.2 within
    next => cases within

/-- Digits are read as the number that they make. -/
theorem Denotes.read_eq {text : List Char} {n most : Nat} (denotes : Denotes text n)
    (within : n ≤ most) : read most text = .ok n := by
  have digits : readDigits most text = .ok n :=
    foldlM_readDigit_of_digits denotes.digits (denotes.digitsWithin?_eq_some_iff.mpr ⟨rfl, within⟩)
  have unsigned : ∀ rest, text ≠ '+' :: rest := by
    rintro rest rfl
    have plus := denotes.digits '+' List.mem_cons_self
    cases plus
  cases text with
  | nil => exact absurd rfl denotes.nonempty
  | cons c rest =>
    cases rest with
    | nil => exact digits
    | cons d rest =>
      rw [read, if_neg]
      · exact digits
      · exact fun plus => unsigned _ (by rw [plus])
      · exact List.cons_ne_nil d rest

end Decimal

end SeriesWire
