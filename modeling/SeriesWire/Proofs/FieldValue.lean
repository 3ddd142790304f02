import SeriesWire.FieldValue
import SeriesWire.Proofs.Decimal.FloatText
import SeriesWire.Proofs.Text.Utf8

/-! Values by their written form. All but strings are words, in which no octet has a meaning
of its own in a line, and a word tells its value. -/
namespace SeriesWire

/-- The characters with a meaning of their own in a line. -/
def markChars : List Char := ['\n', '\r', ' ', '"', ',', '=', '\\']

/-- The octets with a meaning of their own in a line. -/
def Octet.marks : Bytes := [newline, carriageReturn, space, quote, comma, equals, backslash]

theorem Octet.marks_eq : marks = markChars.map fun c => UInt8.ofNat c.toNat := rfl

theorem Utf8.not_mem_marks {cs : List Char} (plain : ∀ c ∈ cs, c ∉ markChars) :
    ∀ b ∈ encodeChars cs, b ∉ Octet.marks := by
  intro b member mark
  rw [Octet.marks_eq] at mark
  obtain ⟨c, isMark, rfl⟩ := List.mem_map.mp mark
  have ascii : ∀ c ∈ markChars, c.toNat < 0x80 := by simp [markChars]
  exact plain c ((mem_encodeChars (ascii c isMark)).mp member) isMark

namespace Decimal

theorem not_mem_markChars_of_isDigit {c : Char} (digit : c.isDigit) : c ∉ markChars := by
  intro mark
  have noDigit : ∀ c ∈ markChars, c.isDigit = false := by simp [markChars]
  simp [noDigit c mark] at digit

theorem not_mem_markChars_of_mem_integer {i : Int} : ∀ c ∈ integer i, c ∉ markChars := by
  intro c member
  rcases isDigit_or_eq_of_mem_integer member with digit | rfl
  · exact not_mem_markChars_of_isDigit digit
  · decide

end Decimal

namespace FieldValue

open Decimal

/-- The characters of a value that is written without quotes. -/
def word? : FieldValue → Option (List Char)
  | .float x => some (Decimal.float x)
  | .integer i => some (Decimal.integer i.toInt ++ ['i'])
  | .unsigned n => some (Decimal.natural n.toNat ++ ['u'])
  | .string _ => none
  | .boolean true => some ['t', 'r', 'u', 'e']
  | .boolean false => some ['f', 'a', 'l', 's', 'e']

/-- The first letter of a word that no other kind of word begins its letters with. -/
def kindLetter? : FieldValue → Option Char
  | .float _ | .string _ => none
  | .integer _ => some 'i'
  | .unsigned _ => some 'u'
  | .boolean true => some 'r'
  | .boolean false => some 'l'

/-- A value is a string, which is quoted, or a word. -/
theorem encode_cases (v : FieldValue) :
    (∃ text, v = .string text ∧ v.encode = Escape.quoted (Utf8.encode text)) ∨
      ∃ cs, v.word? = some cs ∧ v.encode = Utf8.encodeChars cs := by
  rcases v with x | i | n | s | (_ | _)
  case string => exact .inl ⟨s, rfl, rfl⟩
  all_goals exact .inr ⟨_, rfl, rfl⟩

theorem not_mem_markChars_of_word? {v : FieldValue} {cs : List Char} (word : v.word? = some cs) :
    ∀ c ∈ cs, c ∉ markChars := by
  intro c member
  cases v with
  | float x =>
    cases word
    rcases mem_float member with digit | rfl | rfl | rfl
    · exact not_mem_markChars_of_isDigit digit
    all_goals decide
  | integer i =>
    cases word
    rcases List.mem_append.mp member with part | suffix
    · exact not_mem_markChars_of_mem_integer c part
    · rw [List.mem_singleton.mp suffix]
      decide
  | unsigned n =>
    cases word
    rcases List.mem_append.mp member with digit | suffix
    · exact not_mem_markChars_of_isDigit (isDigit_of_mem_natural digit)
    · rw [List.mem_singleton.mp suffix]
      decide
  | string => cases word
  | boolean b =>
    revert c
    cases b <;> cases word <;> simp [markChars]

theorem not_mem_marks_of_word? {v : FieldValue} {cs : List Char} (word : v.word? = some cs) :
    ∀ b ∈ Utf8.encodeChars cs, b ∉ Octet.marks :=
  Utf8.not_mem_marks (not_mem_markChars_of_word? word)

theorem find?_word? {v : FieldValue} {cs : List Char} (word : v.word? = some cs) :
    cs.find? (· ∈ ['i', 'u', 'r', 'l']) = v.kindLetter? := by
  have digit {c : Char} (isDigit : c.isDigit) : c ∉ ['i', 'u', 'r', 'l'] := by
    intro letter
    have noDigit : ∀ c ∈ ['i', 'u', 'r', 'l'], c.isDigit = false := by simp
    simp [noDigit c letter] at isDigit
  cases v with
  | float x =>
    cases word
    refine List.find?_eq_none.mpr fun c member => ?_
    rcases mem_float member with isDigit | rfl | rfl | rfl
    · simpa using digit isDigit
    all_goals decide
  | integer i =>
    cases word
    have digits : (Decimal.integer i.toInt).find? (· ∈ ['i', 'u', 'r', 'l']) = none := by
      refine List.find?_eq_none.mpr fun c member => ?_
      rcases isDigit_or_eq_of_mem_integer member with isDigit | rfl
      · simpa using digit isDigit
      · decide
    rw [List.find?_append, digits]
    rfl
  | unsigned n =>
    cases word
    have digits : (Decimal.natural n.toNat).find? (· ∈ ['i', 'u', 'r', 'l']) = none := by
      refine List.find?_eq_none.mpr fun c member => ?_
      simpa using digit (isDigit_of_mem_natural member)
    rw [List.find?_append, digits]
    rfl
  | string => cases word
  | boolean b => cases b <;> cases word <;> rfl

theorem word?_injective {v w : FieldValue} {cs : List Char} (one : v.word? = some cs)
    (other : w.word? = some cs) : v = w := by
  have kinds : v.kindLetter? = w.kindLetter? := (find?_word? one).symm.trans (find?_word? other)
  rcases v with x | i | n | s | (_ | _) <;> rcases w with y | j | m | t | (_ | _)
  case float.float =>
    have texts : Decimal.float x = Decimal.float y := Option.some.inj (one.trans other.symm)
    exact congrArg FieldValue.float (float_injective texts)
  case integer.integer =>
    have texts : Decimal.integer i.toInt ++ ['i'] = Decimal.integer j.toInt ++ ['i'] :=
      Option.some.inj (one.trans other.symm)
    have numbers := integer_injective (List.append_cancel_right texts)
    exact congrArg FieldValue.integer (Int64.toInt_inj.mp numbers)
  case unsigned.unsigned =>
    have texts : Decimal.natural n.toNat ++ ['u'] = Decimal.natural m.toNat ++ ['u'] :=
      Option.some.inj (one.trans other.symm)
    have numbers := natural_injective (List.append_cancel_right texts)
    exact congrArg FieldValue.unsigned (UInt64.toNat_inj.mp numbers)
  case boolean.false.boolean.false => rfl
  case boolean.true.boolean.true => rfl
  case string.float | string.integer | string.unsigned | string.string => cases one
  case string.boolean.false | string.boolean.true => cases one
  case float.string | integer.string | unsigned.string => cases other
  case boolean.false.string | boolean.true.string => cases other
  all_goals cases kinds

end FieldValue

end SeriesWire
