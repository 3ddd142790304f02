import SeriesWire.KeyTable
import SeriesWire.Proofs.Text.Utf8

/-! The order of texts in octets. UTF-8 keeps the order of code points: a character with more
octets begins with a larger one, and octets of one number hold the digits of the code point from
the highest on. So what is in the order of its keys is in the order of their octets too. -/
namespace SeriesWire

namespace Utf8

/-- Octets compare by their first difference. -/
theorem cons_lt_cons {low high : Nat} {front back : Bytes} (octet : high < 0x100)
    (order : low ≤ high) (behind : low = high → front < back) :
    UInt8.ofNat low :: front < UInt8.ofNat high :: back := by
  rw [List.cons_lt_cons_iff]
  by_cases same : low = high
  · exact .inr ⟨congrArg UInt8.ofNat same, behind same⟩
  · apply Or.inl
    rw [UInt8.lt_iff_toNat_lt, UInt8.toNat_ofNat', UInt8.toNat_ofNat',
      Nat.mod_eq_of_lt (Nat.lt_of_le_of_lt order octet), Nat.mod_eq_of_lt octet]
    exact Nat.lt_of_le_of_ne order same

theorem Spelt.append_lt {code other : Nat} {octets others : Bytes} (spelt : Spelt code octets)
    (speltToo : Spelt other others) (less : code < other) (front back : Bytes) :
    octets ++ front < others ++ back := by
  cases spelt with
  | one =>
    cases speltToo <;> exact cons_lt_cons (by omega) (by omega) (by omega)
  | two =>
    cases speltToo with
    | one => omega
    | two =>
      refine cons_lt_cons (by omega) (by omega) fun same => ?_
      exact cons_lt_cons (by omega) (by omega) (by omega)
    | three => exact cons_lt_cons (by omega) (by omega) (by omega)
    | four => exact cons_lt_cons (by omega) (by omega) (by omega)
  | three =>
    cases speltToo with
    | one => omega
    | two => omega
    | three =>
      refine cons_lt_cons (by omega) (by omega) fun first => ?_
      refine cons_lt_cons (by omega) (by omega) fun second => ?_
      exact cons_lt_cons (by omega) (by omega) (by omega)
    | four => exact cons_lt_cons (by omega) (by omega) (by omega)
  | four =>
    cases speltToo with
    | one => omega
    | two => omega
    | three => omega
    | four =>
      refine cons_lt_cons (by omega) (by omega) fun first => ?_
      refine cons_lt_cons (by omega) (by omega) fun second => ?_
      refine cons_lt_cons (by omega) (by omega) fun third => ?_
      exact cons_lt_cons (by omega) (by omega) (by omega)

theorem encodeChars_lt {first second : List Char} (less : first < second) :
    encodeChars first < encodeChars second := by
  induction first generalizing second with
  | nil =>
    cases second with
    | nil => exact absurd less (List.lt_irrefl [])
    | cons d second =>
      have begun : encodeChars (d :: second) ≠ [] := by
        simp [encodeChars, String.utf8EncodeChar_ne_nil]
      obtain ⟨octet, octets, same⟩ := List.exists_cons_of_ne_nil begun
      rw [same]
      exact List.nil_lt_cons octet octets
  | cons c first ih =>
    cases second with
    | nil => exact absurd less (List.not_lt_nil _)
    | cons d second =>
      simp only [encodeChars, List.flatMap_cons]
      rcases List.cons_lt_cons_iff.mp less with smaller | ⟨rfl, behind⟩
      · exact (spelt_encodeChar c).append_lt (spelt_encodeChar d) smaller _ _
      · exact List.append_left_lt (ih behind)

/-- Texts are in the order of their octets. -/
theorem encode_lt_encode {first second : String} (less : first < second) :
    encode first < encode second :=
  encodeChars_lt (String.lt_iff.mp less)

end Utf8

theorem Ascending.octets {α : Type} {entries : List (String × α)} (ascending : Ascending entries) :
    entries.Pairwise fun entry later => Utf8.encode entry.1 < Utf8.encode later.1 :=
  ascending.imp Utf8.encode_lt_encode

end SeriesWire
