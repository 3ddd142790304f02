/-! Digits and the numbers that they make. -/
namespace SeriesWire.Text

/-- The value of a digit in bases up to 16; for all else a value too large for these. -/
def digitValue (c : Char) : Nat :=
  if c.isDigit then c.toNat - '0'.toNat
  else if 'a' ≤ c ∧ c ≤ 'f' then c.toNat - 'a'.toNat + 10
  else if 'A' ≤ c ∧ c ≤ 'F' then c.toNat - 'A'.toNat + 10
  else 16

/-- The number that some digits make. -/
def digitsValue (base : Nat) (ds : List Char) : Nat :=
  ds.foldl (fun value d => value * base + digitValue d) 0

/-- One digit more behind a number, unless that leads past `most`. -/
def nextWithin? (base most value : Nat) (d : Char) : Option Nat :=
  if value * base + digitValue d ≤ most then some (value * base + digitValue d) else none

/-- The number that some digits make, unless it is larger than `most`. Digits behind one
that leads past `most` are not looked at, as a number never shrinks with a digit more. -/
def digitsWithin? (base most : Nat) (ds : List Char) : Option Nat :=
  ds.foldlM (nextWithin? base most) 0

theorem foldlM_nextWithin? {base most value : Nat} {ds : List Char} (hb : 0 < base)
    (hv : value ≤ most) :
    ds.foldlM (nextWithin? base most) value =
      let whole := ds.foldl (fun value d => value * base + digitValue d) value
      if whole ≤ most then some whole else none := by
  have grows (ds : List Char) (value : Nat) :
      value ≤ ds.foldl (fun value d => value * base + digitValue d) value := by
    induction ds generalizing value with
    | nil => exact Nat.le_refl value
    | cons d ds ih =>
      exact Nat.le_trans (Nat.le_trans (Nat.le_mul_of_pos_right value hb) (Nat.le_add_right _ _))
        (ih _)
  induction ds generalizing value with
  | nil => simp [hv]
  | cons d ds ih =>
    rw [List.foldlM_cons, nextWithin?]
    split
    case isTrue h => exact ih h
    case isFalse h =>
      exact (if_neg fun hw => h (Nat.le_trans (grows ds _) hw)).symm

/-- Reading digits only as long as they stay within `most` finds the whole number. -/
theorem digitsWithin?_eq {base : Nat} (hb : 0 < base) (most : Nat) (ds : List Char) :
    digitsWithin? base most ds =
      if digitsValue base ds ≤ most then some (digitsValue base ds) else none :=
  foldlM_nextWithin? hb (Nat.zero_le most)

end SeriesWire.Text
