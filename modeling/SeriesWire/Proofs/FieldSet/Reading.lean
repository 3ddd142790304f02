import SeriesWire.Proofs.Escape
import SeriesWire.Proofs.FieldSet.Division
import SeriesWire.Proofs.FieldValue
import SeriesWire.Proofs.Text.Run

/-! Reading written fields. A backslash that ends a key makes the sign behind it look like part
of a longer key. Octets read in both ways would be in a quoted text and in a key at once, with
what follows being fields for both. No octets are, so each key ends at one place only. -/
namespace SeriesWire

namespace Escape

/-- Octets from some place within an escaped text on, where what stands behind the text is
what `behind` tells. -/
inductive Within (specials : Bytes) (behind : Bytes → Prop) : Bytes → Prop where
  | ended {rest : Bytes} : behind rest → Within specials behind rest
  | escaped {b : UInt8} {rest : Bytes} : b ∈ specials → Within specials behind rest →
      Within specials behind (Octet.backslash :: b :: rest)
  | plain {b : UInt8} {rest : Bytes} : b ∉ specials → Within specials behind rest →
      Within specials behind (b :: rest)

namespace Within

variable {specials rest : Bytes} {behind : Bytes → Prop}

theorem of_escape (text : Bytes) (ended : behind rest) :
    Within specials behind (escape specials text ++ rest) := by
  induction text with
  | nil => exact .ended ended
  | cons b text ih =>
    by_cases special : b ∈ specials
    · rw [escape_cons_of_mem special]
      exact .escaped special ih
    · rw [escape_cons_of_not_mem special]
      exact .plain special ih

theorem cons_cases {b : UInt8} (within : Within specials behind (b :: rest)) :
    behind (b :: rest) ∨
    (b = Octet.backslash ∧ ∃ c more, c ∈ specials ∧ rest = c :: more ∧
      Within specials behind more) ∨
    (b ∉ specials ∧ Within specials behind rest) := by
  generalize whole : b :: rest = bytes at within
  cases within with
  | ended ended => exact .inl (whole ▸ ended)
  | escaped special within =>
    obtain ⟨rfl, rfl⟩ := List.cons.inj whole
    exact .inr (.inl ⟨rfl, _, _, special, rfl, within⟩)
  | plain plain within =>
    obtain ⟨rfl, rfl⟩ := List.cons.inj whole
    exact .inr (.inr ⟨plain, within⟩)

theorem of_append {run : Bytes} (single : Octet.backslash ∉ run)
    (open_ : ∀ b ∈ run, ∀ more, ¬behind (b :: more))
    (within : Within specials behind (run ++ rest)) : Within specials behind rest := by
  induction run with
  | nil => exact within
  | cons b run ih =>
    simp only [List.mem_cons, not_or, forall_eq_or_imp] at single open_
    rcases within.cons_cases with ended | ⟨rfl, -⟩ | ⟨-, within⟩
    · exact absurd ended (open_.1 _)
    · exact absurd rfl single.1
    · exact ih single.2 open_.2 within

end Within

end Escape

namespace Field

open Escape

/-- The octets of fields that stand behind another one, each with the comma before it. -/
def later (fields : List Field) : Bytes :=
  fields.flatMap fun field => Octet.comma :: field.encode

theorem later_cons (field : Field) (fields : List Field) :
    later (field :: fields) = Octet.comma :: (field.encode ++ later fields) := rfl

theorem join_eq (field : Field) (fields : List Field) :
    join (field :: fields) = field.encode ++ later fields := by
  induction fields generalizing field with
  | nil => simp [join_singleton, later]
  | cons other fields ih => rw [join_cons field (by simp), ih, later_cons]

theorem encode_append (field : Field) (rest : Bytes) :
    field.encode ++ rest =
      escape tagSpecials (Utf8.encode field.1) ++ Octet.equals :: (field.2.encode ++ rest) := by
  simp [encode, tag]

theorem head?_later {fields : List Field} : ∀ b ∈ (later fields).head?, b = Octet.comma := by
  cases fields with
  | nil => simp [later]
  | cons field fields => simp [later_cons]

/-- From within a quoted text on, in a set of fields. -/
def InText : Bytes → Prop :=
  Within quotedSpecials fun rest => ∃ fields, rest = Octet.quote :: later fields

/-- From within a key on, in a set of fields. -/
def InKey : Bytes → Prop :=
  Within tagSpecials fun rest => ∃ (value : FieldValue) (fields : List Field),
    rest = Octet.equals :: (value.encode ++ later fields)

variable {b : UInt8} {rest run bytes : Bytes} {fields : List Field} {value : FieldValue}

theorem InText.of_quoted (text : Bytes) (fields : List Field) :
    InText (escape quotedSpecials text ++ Octet.quote :: later fields) :=
  .of_escape text ⟨fields, rfl⟩

theorem InKey.of_escaped (text : Bytes) (value : FieldValue) (fields : List Field) :
    InKey (escape tagSpecials text ++ Octet.equals :: (value.encode ++ later fields)) :=
  .of_escape text ⟨value, fields, rfl⟩

theorem not_inText_nil : ¬InText [] := by
  rintro (⟨_, ⟨⟩⟩)

theorem InText.cons_cases (text : InText (b :: rest)) :
    (b = Octet.quote ∧ ∃ fields, rest = later fields) ∨
    (b = Octet.backslash ∧ ∃ c more, c ∈ quotedSpecials ∧ rest = c :: more ∧ InText more) ∨
    (b ∉ quotedSpecials ∧ InText rest) := by
  rcases Within.cons_cases text with ⟨fields, same⟩ | others
  · obtain ⟨rfl, rfl⟩ := List.cons.inj same
    exact .inl ⟨rfl, fields, rfl⟩
  · exact .inr others

theorem InKey.cons_cases (key : InKey (b :: rest)) :
    (b = Octet.equals ∧ ∃ (value : FieldValue) (fields : List Field),
      rest = value.encode ++ later fields) ∨
    (b = Octet.backslash ∧ ∃ c more, c ∈ tagSpecials ∧ rest = c :: more ∧ InKey more) ∨
    (b ∉ tagSpecials ∧ InKey rest) := by
  rcases Within.cons_cases key with ⟨value, fields, same⟩ | others
  · obtain ⟨rfl, rfl⟩ := List.cons.inj same
    exact .inl ⟨rfl, value, fields, rfl⟩
  · exact .inr others

theorem not_inKey_nil : ¬InKey [] := by
  rintro (⟨_, _, ⟨⟩⟩)

theorem not_inKey_later : ¬InKey (later fields) := by
  intro key
  cases fields with
  | nil => exact not_inKey_nil key
  | cons field fields =>
    rcases InKey.cons_cases key with ⟨same, -⟩ | ⟨same, -⟩ | ⟨plain, -⟩
    · exact absurd same (by decide)
    · exact absurd same (by decide)
    · exact absurd (by decide) plain

theorem InText.of_cons (text : InText (b :: rest)) (plain : b ∉ quotedSpecials) : InText rest := by
  rcases text.cons_cases with ⟨rfl, -⟩ | ⟨rfl, -⟩ | ⟨-, text⟩
  · exact absurd (by decide) plain
  · exact absurd (by decide) plain
  · exact text

theorem InText.of_append (free : ∀ b ∈ run, b ∉ Octet.marks) (text : InText (run ++ rest)) :
    InText rest := by
  refine Within.of_append (fun member => free _ member (by decide)) ?_ text
  rintro b member more ⟨fields, same⟩
  exact free b member ((List.cons.inj same).1 ▸ by decide)

theorem InKey.of_append (free : ∀ b ∈ run, b ∉ Octet.marks) (key : InKey (run ++ rest)) :
    InKey rest := by
  refine Within.of_append (fun member => free _ member (by decide)) ?_ key
  rintro b member more ⟨value, fields, same⟩
  exact free b member ((List.cons.inj same).1 ▸ by decide)

/-- Octets in a text and in a key at once. -/
structure Clash (bytes : Bytes) : Prop where
  inText : InText bytes
  inKey : InKey bytes

/-- A text that goes on where only fields are left is in the key of the next of them. -/
theorem InText.clash_of_later (text : InText (later fields)) :
    ∃ less, Clash less ∧ less.length < (later fields).length := by
  cases fields with
  | nil => exact absurd text not_inText_nil
  | cons field fields =>
    rw [later_cons] at text ⊢
    have key : InKey (field.encode ++ later fields) :=
      encode_append field _ ▸ .of_escaped (Utf8.encode field.1) field.2 fields
    exact ⟨_, ⟨text.of_cons (by decide), key⟩, Nat.lt_succ_self _⟩

/-- The quote that opens a value closes the text, and what is in the value are fields then. -/
theorem InText.clash_of_value (text : InText (value.encode ++ later fields)) :
    ∃ less, Clash less ∧ less.length < (value.encode ++ later fields).length := by
  rcases value.encode_cases with ⟨inner, -, quoted⟩ | ⟨cs, word, plain⟩
  · rw [quoted, quoted_append] at text ⊢
    rcases text.cons_cases with ⟨-, others, same⟩ | ⟨same, -⟩ | ⟨special, -⟩
    · have again := InText.of_quoted (Utf8.encode inner) fields
      rw [same] at again ⊢
      obtain ⟨less, clash, short⟩ := again.clash_of_later
      exact ⟨less, clash, short.trans (Nat.lt_succ_self _)⟩
    · exact absurd same (by decide)
    · exact absurd (by decide) special
  · rw [plain] at text ⊢
    have free := FieldValue.not_mem_marks_of_word? word
    obtain ⟨less, clash, short⟩ := (text.of_append free).clash_of_later
    rw [List.length_append]
    exact ⟨less, clash, by omega⟩

theorem not_mem_quotedSpecials_of_mem_tagSpecials : ∀ b ∈ tagSpecials, b ∉ quotedSpecials := by
  simp only [tagSpecials, List.forall_mem_cons]
  exact ⟨by decide, by decide, by decide, List.forall_mem_nil _⟩

/-- One step of both readings. -/
theorem Clash.next (clash : Clash bytes) : ∃ less, Clash less ∧ less.length < bytes.length := by
  obtain ⟨text, key⟩ := clash
  cases bytes with
  | nil => exact absurd text not_inText_nil
  | cons b rest =>
    rcases key.cons_cases with ⟨rfl, value, fields, rfl⟩ | ⟨rfl, c, more, special, rfl, -⟩ |
      ⟨-, keyOn⟩
    · -- The key ends, and its value is read within the text.
      obtain ⟨less, clash, short⟩ := (text.of_cons (by decide)).clash_of_value
      exact ⟨less, clash, short.trans (Nat.lt_succ_self _)⟩
    · -- The key escapes an octet that the text would not escape.
      rcases text.cons_cases with ⟨same, -⟩ | ⟨-, d, other, escaped, same, -⟩ | ⟨plain, -⟩
      · exact absurd same (by decide)
      · obtain ⟨rfl, -⟩ := List.cons.inj same
        exact absurd escaped (not_mem_quotedSpecials_of_mem_tagSpecials c special)
      · exact absurd (by decide) plain
    · rcases text.cons_cases with ⟨-, fields, rfl⟩ | ⟨-, d, more, escaped, rfl, textOn⟩ |
        ⟨-, textOn⟩
      · exact absurd keyOn not_inKey_later
      · -- The text escapes an octet with which the key may in turn escape the one behind it.
        rcases keyOn.cons_cases with ⟨rfl, -⟩ | ⟨-, c, most, special, rfl, keyBehind⟩ |
          ⟨-, keyBehind⟩
        · exact absurd escaped (by decide)
        · have textBehind := textOn.of_cons (not_mem_quotedSpecials_of_mem_tagSpecials c special)
          exact ⟨most, ⟨textBehind, keyBehind⟩, by simp only [List.length_cons]; omega⟩
        · exact ⟨more, ⟨textOn, keyBehind⟩, by simp only [List.length_cons]; omega⟩
      · exact ⟨rest, ⟨textOn, keyOn⟩, Nat.lt_succ_self _⟩

theorem InText.not_inKey (text : InText bytes) : ¬InKey bytes := by
  intro key
  induction size : bytes.length using Nat.strong_induction_on generalizing bytes with
  | _ size ih =>
    obtain ⟨less, clash, short⟩ := Clash.next ⟨text, key⟩
    exact ih less.length (size ▸ short) clash.inText clash.inKey rfl

theorem not_inKey_value (value : FieldValue) (fields : List Field) :
    ¬InKey (value.encode ++ later fields) := by
  intro key
  rcases value.encode_cases with ⟨inner, -, quoted⟩ | ⟨cs, word, plain⟩
  · rw [quoted, quoted_append] at key
    rcases key.cons_cases with ⟨same, -⟩ | ⟨same, -⟩ | ⟨-, key⟩
    · exact absurd same (by decide)
    · exact absurd same (by decide)
    · exact (InText.of_quoted (Utf8.encode inner) fields).not_inKey key
  · rw [plain] at key
    have free := FieldValue.not_mem_marks_of_word? word
    exact not_inKey_later (key.of_append free)

/-- A word with fields behind it begins with no quote. -/
theorem quoted_append_ne {text : Bytes} (plain : ∀ b ∈ run, b ∉ Octet.marks) :
    Escape.quoted text ++ rest ≠ run ++ later fields := by
  intro same
  have head : (run ++ later fields).head? = some Octet.quote := congrArg List.head? same.symm
  cases run with
  | nil => exact absurd (head?_later _ head) (by decide)
  | cons b run =>
    rw [List.cons_append, List.head?_cons, Option.some.injEq] at head
    exact plain b List.mem_cons_self (head ▸ by decide)

/-- No value ends where another one goes on. -/
theorem value_append_inj {first second : FieldValue} {fields others : List Field}
    (same : first.encode ++ later fields = second.encode ++ later others) :
    first = second ∧ later fields = later others := by
  have comma {kept : List Field} : ∀ b ∈ (later kept).head?, ¬b ∉ Octet.marks := by
    intro b head plain
    rw [head?_later b head] at plain
    exact absurd (by decide) plain
  rcases first.encode_cases with ⟨text, rfl, quoted⟩ | ⟨cs, word, plain⟩ <;>
    rcases second.encode_cases with ⟨textToo, rfl, quotedToo⟩ | ⟨csToo, wordToo, plainToo⟩
  · rw [quoted, quotedToo] at same
    obtain ⟨texts, rests⟩ := quoted_append_inj same
    exact ⟨congrArg FieldValue.string (Utf8.encode_injective texts), rests⟩
  · rw [quoted, plainToo] at same
    exact absurd same (quoted_append_ne (FieldValue.not_mem_marks_of_word? wordToo))
  · rw [plain, quotedToo] at same
    exact absurd same.symm (quoted_append_ne (FieldValue.not_mem_marks_of_word? word))
  · rw [plain, plainToo] at same
    obtain ⟨words, rests⟩ := run_append_inj (FieldValue.not_mem_marks_of_word? word)
      (FieldValue.not_mem_marks_of_word? wordToo) comma comma same
    rw [Utf8.encodeChars_injective words] at word
    exact ⟨FieldValue.word?_injective word wordToo, rests⟩

theorem encode_append_inj {first second : Field} {fields others : List Field}
    (same : first.encode ++ later fields = second.encode ++ later others) :
    first = second ∧ later fields = later others := by
  have equals (rest : Bytes) : IsEnd tagSpecials (Octet.equals :: rest) :=
    isEnd_cons (by decide) (by decide) rest
  rw [encode_append, encode_append] at same
  rcases escape_append_cases (equals _) (equals _) same with ⟨keys, rests⟩ | longer | longer
  · obtain ⟨values, rests⟩ := value_append_inj (List.cons.inj rests).2
    exact ⟨Prod.ext (Utf8.encode_injective keys) values, rests⟩
  · obtain ⟨separator, -, more, goesOn⟩ := longer.goesOn
    have key := InKey.of_escaped more second.2 others
    exact absurd ((List.cons.inj goesOn).2 ▸ key) (not_inKey_value first.2 fields)
  · obtain ⟨separator, -, more, goesOn⟩ := longer.goesOn
    have key := InKey.of_escaped more first.2 fields
    exact absurd ((List.cons.inj goesOn).2 ▸ key) (not_inKey_value second.2 others)

theorem later_injective {fields others : List Field} (same : later fields = later others) :
    fields = others := by
  induction fields generalizing others with
  | nil =>
    cases others with
    | nil => rfl
    | cons => cases same
  | cons field fields ih =>
    cases others with
    | nil => cases same
    | cons other others =>
      rw [later_cons, later_cons] at same
      obtain ⟨equal, rests⟩ := encode_append_inj (List.cons.inj same).2
      rw [equal, ih rests]

/-- Written fields are told by their octets. -/
theorem join_injective {fields others : List Field} (nonempty : fields ≠ [])
    (nonemptyToo : others ≠ []) (same : join fields = join others) : fields = others := by
  obtain ⟨field, fields, rfl⟩ := List.exists_cons_of_ne_nil nonempty
  obtain ⟨other, others, rfl⟩ := List.exists_cons_of_ne_nil nonemptyToo
  rw [join_eq, join_eq] at same
  obtain ⟨equal, rests⟩ := encode_append_inj same
  rw [equal, later_injective rests]

end Field

end SeriesWire
