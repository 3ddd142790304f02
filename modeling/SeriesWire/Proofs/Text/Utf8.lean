import Mathlib.Data.List.Basic
import SeriesWire.Text.Utf8

/-! The octets of a text. One below 0x80 stands for the character of its number and for
nothing else, so separators and line breaks are found among the octets exactly where they
are in the text. -/
namespace SeriesWire.Utf8

/-- A character below 0x80 is one octet, and the octets of all others are 0x80 or more. -/
theorem encodeChar_cases (c : Char) :
    (c.toNat < 0x80 ∧ String.utf8EncodeChar c = [UInt8.ofNat c.toNat]) ∨
    (0x80 ≤ c.toNat ∧ ∀ octet ∈ String.utf8EncodeChar c, 0x80 ≤ octet.toNat) := by
  change (c.val.toNat < 0x80 ∧ _ = [UInt8.ofNat c.val.toNat]) ∨ (0x80 ≤ c.val.toNat ∧ _)
  have continued {low high : Nat} (from_ : 0x80 ≤ high) (below : low + high < 0x100) :
      0x80 ≤ (UInt8.ofNat (low + high)).toNat := by
    rw [UInt8.toNat_ofNat', Nat.mod_eq_of_lt below]
    omega
  unfold String.utf8EncodeChar
  by_cases ascii : c.val.toNat ≤ 0x7F
  · simp only [ascii, if_true]
    exact .inl ⟨by omega, trivial⟩
  · refine .inr ⟨by omega, ?_⟩
    simp only [ascii, if_false]
    have last : 0x80 ≤ (UInt8.ofNat (c.val.toNat % 64 + 0x80)).toNat :=
      continued (by omega) (by omega)
    have third : 0x80 ≤ (UInt8.ofNat (c.val.toNat / 64 % 64 + 0x80)).toNat :=
      continued (by omega) (by omega)
    have second : 0x80 ≤ (UInt8.ofNat (c.val.toNat / 4096 % 64 + 0x80)).toNat :=
      continued (by omega) (by omega)
    split
    · simpa using ⟨continued (by omega) (by omega), last⟩
    · split
      · simpa using ⟨continued (by omega) (by omega), third, last⟩
      · simpa using ⟨continued (by omega) (by omega), second, third, last⟩

/-- The octets of a code point, by its digits to the base 64. The first octet holds the highest
digit and tells how many more there are. No code point has more digits than it needs, and none
is a surrogate. -/
inductive Spelt : Nat → Bytes → Prop where
  | one {a : Nat} : a < 0x80 → Spelt a [.ofNat a]
  | two {a b : Nat} : 2 ≤ a → a < 32 → b < 64 →
      Spelt (a * 64 + b) [.ofNat (a + 0xC0), .ofNat (b + 0x80)]
  | three {a b c : Nat} : a < 16 → b < 64 → c < 64 → (a = 0 → 32 ≤ b) → (a = 13 → b < 32) →
      Spelt ((a * 64 + b) * 64 + c) [.ofNat (a + 0xE0), .ofNat (b + 0x80), .ofNat (c + 0x80)]
  | four {a b c d : Nat} : a < 5 → b < 64 → c < 64 → d < 64 → (a = 0 → 16 ≤ b) →
      (a = 4 → b < 16) → Spelt (((a * 64 + b) * 64 + c) * 64 + d)
        [.ofNat (a + 0xF0), .ofNat (b + 0x80), .ofNat (c + 0x80), .ofNat (d + 0x80)]

theorem Spelt.of_eq {code other : Nat} {octets : Bytes} (spelt : Spelt code octets)
    (same : code = other) : Spelt other octets := same ▸ spelt

theorem spelt_encodeChar (c : Char) : Spelt c.toNat (String.utf8EncodeChar c) := by
  change Spelt c.val.toNat _
  have valid : c.val.toNat < 0xD800 ∨ 0xDFFF < c.val.toNat ∧ c.val.toNat < 0x110000 := c.valid
  simp only [String.utf8EncodeChar]
  split
  · exact .one (by omega)
  split
  · exact (Spelt.two (by omega) (by omega) (by omega)).of_eq (by omega)
  split
  · refine (Spelt.three ?_ ?_ ?_ ?_ ?_).of_eq ?_ <;> omega
  · refine (Spelt.four ?_ ?_ ?_ ?_ ?_ ?_).of_eq ?_ <;> omega

section

variable {c : Char} (ascii : c.toNat < 0x80)

include ascii

theorem toNat_octet : (UInt8.ofNat c.toNat).toNat = c.toNat := by
  rw [UInt8.toNat_ofNat', Nat.mod_eq_of_lt (by omega)]

theorem encodeChar_of_mem {other : Char}
    (member : UInt8.ofNat c.toNat ∈ String.utf8EncodeChar other) :
    other = c ∧ String.utf8EncodeChar other = [UInt8.ofNat c.toNat] := by
  rcases encodeChar_cases other with ⟨small, single⟩ | ⟨-, wide⟩
  · rw [single, List.mem_singleton] at member
    have same := congrArg UInt8.toNat member
    rw [toNat_octet ascii, toNat_octet small] at same
    exact ⟨Char.toNat_inj.mp same.symm, by rw [single, member]⟩
  · have large := wide _ member
    rw [toNat_octet ascii] at large
    omega

theorem count_encodeChars (cs : List Char) :
    (encodeChars cs).count (UInt8.ofNat c.toNat) = cs.count c := by
  induction cs with
  | nil => rfl
  | cons other cs ih =>
    simp only [encodeChars] at ih
    rw [encodeChars, List.flatMap_cons, List.count_append, ih, List.count_cons, Nat.add_comm]
    by_cases same : other = c
    · subst same
      rcases encodeChar_cases other with ⟨-, single⟩ | ⟨wide, -⟩
      · simp [single]
      · omega
    · have absent : UInt8.ofNat c.toNat ∉ String.utf8EncodeChar other :=
        fun member => same (encodeChar_of_mem ascii member).1
      simp [List.count_eq_zero.mpr absent, same]

theorem mem_encodeChars {cs : List Char} : UInt8.ofNat c.toNat ∈ encodeChars cs ↔ c ∈ cs := by
  rw [← List.count_pos_iff, count_encodeChars ascii, List.count_pos_iff]

end

theorem toByteArray_encode (text : String) : (encode text).toByteArray = text.toByteArray := by
  rw [← String.ofList_toList (s := text), String.toByteArray_ofList, String.ofList_toList]
  rfl

theorem length_encode (text : String) : (encode text).length = text.utf8ByteSize := by
  rw [← String.size_toByteArray, ← toByteArray_encode, List.size_toByteArray]

/-- Characters of one octet are found among the octets as often as in the text. -/
theorem countP_encode {specials : List Char} (ascii : ∀ c ∈ specials, c.toNat < 0x80)
    (text : String) :
    (encode text).countP (· ∈ specials.map fun c => UInt8.ofNat c.toNat) =
      text.toList.countP (· ∈ specials) := by
  have encodeChar (c : Char) :
      (String.utf8EncodeChar c).countP (· ∈ specials.map fun c => UInt8.ofNat c.toNat) =
        if c ∈ specials then 1 else 0 := by
    split
    next special =>
      rcases encodeChar_cases c with ⟨-, single⟩ | ⟨wide, -⟩
      · rw [single, List.countP_singleton, if_pos]
        exact decide_eq_true (List.mem_map_of_mem special)
      · exact absurd (ascii c special) (Nat.not_lt.mpr wide)
    next plain =>
      refine List.countP_eq_zero.mpr fun b member special => plain ?_
      obtain ⟨d, named, rfl⟩ := List.mem_map.mp (of_decide_eq_true special)
      exact (encodeChar_of_mem (ascii d named) member).1 ▸ named
  unfold Utf8.encode Utf8.encodeChars
  induction text.toList with
  | nil => rfl
  | cons c cs ih =>
    rw [List.flatMap_cons, List.countP_append, encodeChar, ih, List.countP_cons, Nat.add_comm]
    simp

theorem encodeChars_injective {first second : List Char}
    (same : encodeChars first = encodeChars second) : first = second := by
  have texts : encode (String.ofList first) = encode (String.ofList second) := by
    simpa only [encode, String.toList_ofList] using same
  simpa using congrArg String.toList (encode_injective texts)

theorem encode_ne_nil {text : String} (nonempty : text.isEmpty = false) : encode text ≠ [] := by
  intro noOctets
  have empty : text = "" := encode_injective (noOctets.trans (by rfl : [] = encode ""))
  rw [empty] at nonempty
  cases nonempty

end SeriesWire.Utf8
