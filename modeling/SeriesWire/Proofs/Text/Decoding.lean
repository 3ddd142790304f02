import SeriesWire.Escape
import SeriesWire.Proofs.Escape
import SeriesWire.Proofs.Text.Utf8

/-! Reading the octets of a text. The reader finds every character of it and no place without one,
so replacing such places does nothing. Texts stay texts when they are put together or escaped, as
a backslash only comes before a character of one octet. -/
namespace SeriesWire.Utf8

/-- The last octet of a character. -/
theorem step_last {low high code digit : Nat} {results : List (Option Char)} (small : digit < 64)
    (inside : low ≤ digit + 0x80 ∧ digit + 0x80 ≤ high) :
    step ⟨some ⟨1, low, high, code⟩, results⟩ (.ofNat (digit + 0x80)) =
      ⟨none, some (Char.ofNat (code * 64 + digit)) :: results⟩ := by
  have octet : (UInt8.ofNat (digit + 0x80)).toNat = digit + 0x80 := by
    rw [UInt8.toNat_ofNat', Nat.mod_eq_of_lt (by omega)]
  simp only [step, octet, inside, and_self, if_true, Nat.add_sub_cancel]

/-- An octet of a character with more to come. -/
theorem step_next {missing low high code digit : Nat} {results : List (Option Char)}
    (small : digit < 64) (inside : low ≤ digit + 0x80 ∧ digit + 0x80 ≤ high) :
    step ⟨some ⟨missing + 2, low, high, code⟩, results⟩ (.ofNat (digit + 0x80)) =
      ⟨some (.plain (missing + 1) (code * 64 + digit)), results⟩ := by
  have octet : (UInt8.ofNat (digit + 0x80)).toNat = digit + 0x80 := by
    rw [UInt8.toNat_ofNat', Nat.mod_eq_of_lt (by omega)]
  simp only [step, octet, inside, and_self, if_true, Nat.add_sub_cancel]
  rfl

theorem step_first {octet : Nat} {results : List (Option Char)} (small : octet < 0x100) :
    step ⟨none, results⟩ (.ofNat octet) = first results octet := by
  rw [step, UInt8.toNat_ofNat', Nat.mod_eq_of_lt small]

theorem first_two {digit : Nat} {results : List (Option Char)} (low : 2 ≤ digit)
    (high : digit < 32) : first results (digit + 0xC0) = ⟨some (.plain 1 digit), results⟩ := by
  unfold first
  rw [if_neg (by omega), if_neg (by omega), if_pos (by omega), Nat.add_sub_cancel]

/-- The range for the second of three octets leaves out shorter characters and surrogates. -/
theorem first_three {digit : Nat} (small : digit < 16) (results : List (Option Char)) :
    ∃ low high, first results (digit + 0xE0) = ⟨some ⟨2, low, high, digit⟩, results⟩ ∧
      ∀ second < 64, (digit = 0 → 32 ≤ second) → (digit = 13 → second < 32) →
        low ≤ second + 0x80 ∧ second + 0x80 ≤ high := by
  unfold first
  rw [if_neg (by omega), if_neg (by omega), if_neg (by omega)]
  by_cases shortest : digit = 0
  · subst shortest
    exact ⟨0xA0, 0xBF, rfl, by omega⟩
  by_cases surrogate : digit = 13
  · subst surrogate
    exact ⟨0x80, 0x9F, rfl, by omega⟩
  · rw [if_neg (by omega), if_neg (by omega), if_pos (by omega), Nat.add_sub_cancel]
    exact ⟨0x80, 0xBF, rfl, by omega⟩

/-- The range for the second of four octets leaves out shorter characters and what lies past
the last code point. -/
theorem first_four {digit : Nat} (small : digit < 5) (results : List (Option Char)) :
    ∃ low high, first results (digit + 0xF0) = ⟨some ⟨3, low, high, digit⟩, results⟩ ∧
      ∀ second < 64, (digit = 0 → 16 ≤ second) → (digit = 4 → second < 16) →
        low ≤ second + 0x80 ∧ second + 0x80 ≤ high := by
  unfold first
  rw [if_neg (by omega), if_neg (by omega), if_neg (by omega), if_neg (by omega),
    if_neg (by omega), if_neg (by omega)]
  by_cases shortest : digit = 0
  · subst shortest
    exact ⟨0x90, 0xBF, rfl, by omega⟩
  by_cases last : digit = 4
  · subst last
    exact ⟨0x80, 0x8F, rfl, by omega⟩
  · rw [if_neg (by omega), if_pos (by omega), Nat.add_sub_cancel]
    exact ⟨0x80, 0xBF, rfl, by omega⟩

theorem Spelt.foldl_step {code : Nat} {octets : Bytes} (spelt : Spelt code octets)
    (results : List (Option Char)) :
    octets.foldl step ⟨none, results⟩ = ⟨none, some (Char.ofNat code) :: results⟩ := by
  cases spelt with
  | one small =>
    rw [List.foldl_cons, step_first (by omega), first, if_pos small]
    rfl
  | two low high second =>
    rw [List.foldl_cons, step_first (by omega), first_two low high, List.foldl_cons, Begun.plain,
      step_last second (by omega)]
    rfl
  | three small second third shortest surrogate =>
    obtain ⟨low, high, begun, inside⟩ := first_three small results
    rw [List.foldl_cons, step_first (by omega), begun, List.foldl_cons,
      step_next second (inside _ second shortest surrogate), List.foldl_cons, Begun.plain,
      step_last third (by omega)]
    rfl
  | four small second third fourth shortest last =>
    obtain ⟨low, high, begun, inside⟩ := first_four small results
    rw [List.foldl_cons, step_first (by omega), begun, List.foldl_cons,
      step_next second (inside _ second shortest last), List.foldl_cons, Begun.plain,
      step_next third (by omega), List.foldl_cons, Begun.plain, step_last fourth (by omega)]
    rfl

theorem foldl_step_encodeChars (cs : List Char) (results : List (Option Char)) :
    (encodeChars cs).foldl step ⟨none, results⟩ = ⟨none, (cs.map some).reverse ++ results⟩ := by
  induction cs generalizing results with
  | nil => rfl
  | cons c cs ih =>
    rw [encodeChars, List.flatMap_cons, List.foldl_append, (spelt_encodeChar c).foldl_step]
    change (encodeChars cs).foldl step _ = _
    rw [ih, Char.ofNat_toNat]
    simp

/-- The reader finds the characters of a text. -/
theorem scan_encode (text : String) : scan (encode text) = text.toList.map some := by
  simp [scan, encode, foldl_step_encodeChars]

theorem decodeLossy_encode (text : String) : decodeLossy (encode text) = text := by
  rw [decodeLossy, scan_encode, List.map_map]
  simp [Function.comp_def]

/-- Octets that are some text. -/
def IsText (bytes : Bytes) : Prop := ∃ text, encode text = bytes

namespace IsText

theorem isValidUTF8 {bytes : Bytes} (isText : IsText bytes) : bytes.toByteArray.IsValidUTF8 := by
  obtain ⟨text, rfl⟩ := isText
  exact ⟨text.toList, rfl⟩

theorem ofChars (cs : List Char) : IsText (encodeChars cs) := by
  exact ⟨String.ofList cs, by rw [encode, String.toList_ofList]⟩

theorem append {first second : Bytes} (isText : IsText first) (isTextToo : IsText second) :
    IsText (first ++ second) := by
  obtain ⟨text, rfl⟩ := isText
  obtain ⟨more, rfl⟩ := isTextToo
  rw [encode, encode, encodeChars, encodeChars, ← List.flatMap_append]
  exact ofChars _

theorem cons {c : Char} (ascii : c.toNat < 0x80) {bytes : Bytes} (isText : IsText bytes) :
    IsText (UInt8.ofNat c.toNat :: bytes) := by
  have single : IsText [UInt8.ofNat c.toNat] := by
    rcases encodeChar_cases c with ⟨-, single⟩ | ⟨wide, -⟩
    · rw [← single, ← List.flatMap_singleton (f := String.utf8EncodeChar)]
      exact ofChars [c]
    · omega
  exact single.append isText

/-- An escaped text is a text, as no octet of a longer character is escaped. -/
theorem escape {specials : Bytes} (ascii : ∀ b ∈ specials, b.toNat < 0x80) {bytes : Bytes}
    (isText : IsText bytes) : IsText (Escape.escape specials bytes) := by
  obtain ⟨text, rfl⟩ := isText
  have encodeChar (c : Char) : IsText (Escape.escape specials (String.utf8EncodeChar c)) := by
    rcases encodeChar_cases c with ⟨small, single⟩ | ⟨-, wide⟩
    · have plain : IsText [UInt8.ofNat c.toNat] := (ofChars []).cons small
      rw [single]
      by_cases special : UInt8.ofNat c.toNat ∈ specials
      · rw [Escape.escape_cons_of_mem special]
        exact plain.cons (c := '\\') (by decide)
      · rw [Escape.escape_cons_of_not_mem special]
        exact plain
    · rw [Escape.escape_of_forall_not_mem]
      · rw [← List.flatMap_singleton (f := String.utf8EncodeChar)]
        exact ofChars [c]
      · intro b member special
        have large := wide b member
        have small := ascii b special
        omega
  unfold encode
  induction text.toList with
  | nil => exact ofChars []
  | cons c cs ih =>
    rw [encodeChars, List.flatMap_cons, Escape.escape_append]
    exact (encodeChar c).append ih

theorem measurement (name : String) : IsText (Escape.measurement (encode name)) :=
  escape (by simp [Escape.measurementSpecials, Octet.comma, Octet.space]) ⟨name, rfl⟩

theorem tag (text : String) : IsText (Escape.tag (encode text)) :=
  escape (by simp [Escape.tagSpecials, Octet.comma, Octet.equals, Octet.space]) ⟨text, rfl⟩

theorem quoted (text : String) : IsText (Escape.quoted (encode text)) := by
  have closed : IsText [Octet.quote] := ⟨"\"", rfl⟩
  have escaped : IsText (Escape.escape Escape.quotedSpecials (encode text)) :=
    escape (by simp [Escape.quotedSpecials, Octet.quote, Octet.backslash]) ⟨text, rfl⟩
  exact (escaped.append closed).cons (c := '"') (by decide)

end IsText

end SeriesWire.Utf8
