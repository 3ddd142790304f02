import SeriesWire.Text.LowerCase

/-! Lower case by any table. Of all characters outside ASCII only two have ASCII in their lower
case, so a text whose lower case is in ASCII has the same one by every table. -/
namespace SeriesWire.Text

/-- The characters `lowered` are `cs` in lower case, by some table that keeps to what is known of
the characters with ASCII in their lower case. -/
inductive LowerCase : List Char → List Char → Prop where
  | nil : LowerCase [] []
  | ascii {c : Char} {cs lowered : List Char} : c.toNat < 0x80 → LowerCase cs lowered →
      LowerCase (c :: cs) (c.toLower :: lowered)
  | kelvin {cs lowered : List Char} : LowerCase cs lowered →
      LowerCase ('\u212A' :: cs) ('k' :: lowered)
  | dotted {cs lowered : List Char} : LowerCase cs lowered →
      LowerCase ('\u0130' :: cs) ('i' :: '\u0307' :: lowered)
  | other {c : Char} {front cs lowered : List Char} : 0x80 ≤ c.toNat → c ≠ '\u212A' →
      c ≠ '\u0130' → front ≠ [] → (∀ d ∈ front, 0x80 ≤ d.toNat) → LowerCase cs lowered →
      LowerCase (c :: cs) (front ++ lowered)

theorem lowerChar_of_ascii {c : Char} (ascii : c.toNat < 0x80) : lowerChar c = [c.toLower] := by
  have notKelvin : c ≠ '\u212A' := by
    rintro rfl
    exact absurd ascii (by decide)
  have notDotted : c ≠ '\u0130' := by
    rintro rfl
    exact absurd ascii (by decide)
  rw [lowerChar, if_neg notKelvin, if_neg notDotted]

theorem lowerChar_of_other {c : Char} (wide : 0x80 ≤ c.toNat) (notKelvin : c ≠ '\u212A')
    (notDotted : c ≠ '\u0130') : lowerChar c = [c] := by
  have same : c.toLower = c := by
    refine dif_neg ?_
    rintro ⟨-, capital⟩
    have small : c.toNat ≤ 'Z'.toNat := capital
    exact absurd (Nat.le_trans wide small) (by decide)
  rw [lowerChar, if_neg notKelvin, if_neg notDotted, same]

theorem lowerCase_lower (cs : List Char) : LowerCase cs (lower cs) := by
  induction cs with
  | nil => exact .nil
  | cons c cs ih =>
    rw [lower, List.flatMap_cons]
    by_cases ascii : c.toNat < 0x80
    · rw [lowerChar_of_ascii ascii]
      exact .ascii ascii ih
    by_cases kelvin : c = '\u212A'
    · subst kelvin
      exact .kelvin ih
    by_cases dotted : c = '\u0130'
    · subst dotted
      exact .dotted ih
    · have wide : 0x80 ≤ c.toNat := Nat.not_lt.mp ascii
      rw [lowerChar_of_other wide kelvin dotted]
      exact .other wide kelvin dotted (by simp) (by simpa using wide) ih

/-- All tables agree on a lower case in ASCII. -/
theorem LowerCase.eq_lower {cs lowered : List Char} (lowerCase : LowerCase cs lowered)
    (ascii : ∀ d ∈ lowered, d.toNat < 0x80) : lowered = lower cs := by
  induction lowerCase with
  | nil => rfl
  | ascii small _ ih =>
    rw [List.forall_mem_cons] at ascii
    rw [lower, List.flatMap_cons, lowerChar_of_ascii small, ih ascii.2]
    rfl
  | kelvin _ ih =>
    rw [List.forall_mem_cons] at ascii
    rw [ih ascii.2]
    rfl
  | dotted _ ih =>
    rw [List.forall_mem_cons, List.forall_mem_cons] at ascii
    rw [ih ascii.2.2]
    rfl
  | @other _ front _ _ _ _ _ begun wide _ _ =>
    obtain ⟨d, rest, rfl⟩ := List.exists_cons_of_ne_nil begun
    have small := ascii d (by simp)
    have large := wide d (by simp)
    omega

end SeriesWire.Text
