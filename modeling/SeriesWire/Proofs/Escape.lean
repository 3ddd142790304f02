import SeriesWire.Escape

/-! Where an escaped text ends. Inside quotes nothing but the closing quote can end it. A name
ends at the first separator without a backslash before it, unless the backslash is its own:
then the separator may as well belong to a longer name. -/
namespace SeriesWire.Escape

variable {specials first second longer rest others : Bytes}

@[simp] theorem escape_nil (specials : Bytes) : escape specials [] = [] := rfl

theorem escape_cons_of_mem {b : UInt8} (special : b ∈ specials) (text : Bytes) :
    escape specials (b :: text) = Octet.backslash :: b :: escape specials text := by
  simp [escape, special]

theorem escape_cons_of_not_mem {b : UInt8} (plain : b ∉ specials) (text : Bytes) :
    escape specials (b :: text) = b :: escape specials text := by
  simp [escape, plain]

theorem escape_append (specials text more : Bytes) :
    escape specials (text ++ more) = escape specials text ++ escape specials more :=
  List.flatMap_append

theorem escape_of_forall_not_mem {text : Bytes} (plain : ∀ b ∈ text, b ∉ specials) :
    escape specials text = text := by
  induction text with
  | nil => rfl
  | cons b text ih =>
    rw [List.forall_mem_cons] at plain
    rw [escape_cons_of_not_mem plain.1, ih plain.2]

theorem escape_ne_nil {specials text : Bytes} (nonempty : text ≠ []) :
    escape specials text ≠ [] := by
  obtain ⟨b, text, rfl⟩ := List.exists_cons_of_ne_nil nonempty
  by_cases special : b ∈ specials
  · simp [escape_cons_of_mem special]
  · simp [escape_cons_of_not_mem special]

/-- Every special octet makes a text one octet longer. -/
theorem length_escape (specials text : Bytes) :
    (escape specials text).length = text.length + text.countP (· ∈ specials) := by
  induction text with
  | nil => rfl
  | cons b text ih =>
    by_cases special : b ∈ specials
    · rw [escape_cons_of_mem special, List.countP_cons_of_pos (by simpa using special)]
      simp only [List.length_cons, ih]
      omega
    · rw [escape_cons_of_not_mem special, List.countP_cons_of_neg (by simpa using special)]
      simp only [List.length_cons, ih]
      omega

/-- Only backslashes are added to a text. -/
theorem count_escape {b : UInt8} (other : b ≠ Octet.backslash) (specials text : Bytes) :
    (escape specials text).count b = text.count b := by
  induction text with
  | nil => rfl
  | cons c text ih =>
    by_cases special : c ∈ specials
    · rw [escape_cons_of_mem special, List.count_cons_of_ne (Ne.symm other), List.count_cons, ih,
        List.count_cons]
    · rw [escape_cons_of_not_mem special, List.count_cons, ih, List.count_cons]

/-- What stands behind an escaped text ends it, or there is nothing. -/
def IsEnd (specials rest : Bytes) : Prop :=
  ∀ b ∈ rest.head?, b ∈ specials ∧ b ≠ Octet.backslash

theorem isEnd_cons {b : UInt8} (special : b ∈ specials) (other : b ≠ Octet.backslash)
    (rest : Bytes) : IsEnd specials (b :: rest) := by
  rintro c ⟨⟩
  exact ⟨special, other⟩

/-- A text ends in a backslash that is not escaped, so the separator behind it can be read as
an octet of a longer text. -/
structure Continues (specials text longer rest others : Bytes) : Prop where
  single : Octet.backslash ∉ specials
  last : text.getLast? = some Octet.backslash
  goesOn : ∃ separator ∈ longer, ∃ more, rest = separator :: (escape specials more ++ others)

theorem Continues.cons {text : Bytes} (b c : UInt8)
    (continues : Continues specials text longer rest others) :
    Continues specials (b :: text) (c :: longer) rest others where
  single := continues.single
  last := by
    rw [List.getLast?_cons, continues.last]
    rfl
  goesOn :=
    have ⟨separator, member, more, rests⟩ := continues.goesOn
    ⟨separator, List.mem_cons_of_mem c member, more, rests⟩

/-- A text that goes on where another one has ended begins with an end, which cannot be. -/
theorem not_isEnd_cons {b : UInt8} {text : Bytes}
    (ends : IsEnd specials (escape specials (b :: text) ++ others)) : False := by
  by_cases special : b ∈ specials
  · rw [escape_cons_of_mem special] at ends
    exact (ends _ rfl).2 rfl
  · rw [escape_cons_of_not_mem special] at ends
    exact special (ends _ rfl).1

/-- One text begins with a plain octet where the other has a special one, so it begins with
the backslash of that one and ends there. -/
theorem continues_of_cons {b c : UInt8} {text more : Bytes} (plain : b ∉ specials)
    (special : c ∈ specials)
    (same : escape specials (b :: text) ++ rest = escape specials (c :: more) ++ others) :
    Continues specials (b :: text) (c :: more) rest others := by
  rw [escape_cons_of_not_mem plain, escape_cons_of_mem special] at same
  simp only [List.cons_append, List.cons.injEq] at same
  obtain ⟨rfl, same⟩ := same
  cases text with
  | nil => exact ⟨plain, rfl, c, List.mem_cons_self, more, same⟩
  | cons d text =>
    exfalso
    by_cases specialToo : d ∈ specials
    · rw [escape_cons_of_mem specialToo, List.cons_append, List.cons.injEq] at same
      exact plain (same.1 ▸ special)
    · rw [escape_cons_of_not_mem specialToo, List.cons_append, List.cons.injEq] at same
      exact specialToo (same.1 ▸ special)

/-- Octets that begin with an escaped text in two ways: the texts are the same, or one of them
continues where the other ends. -/
theorem escape_append_cases (ends : IsEnd specials rest) (endsToo : IsEnd specials others)
    (same : escape specials first ++ rest = escape specials second ++ others) :
    (first = second ∧ rest = others) ∨ Continues specials first second rest others ∨
      Continues specials second first others rest := by
  induction first generalizing second with
  | nil =>
    cases second with
    | nil => exact .inl ⟨rfl, same⟩
    | cons c second =>
      rw [escape_nil, List.nil_append] at same
      exact absurd (same ▸ ends) not_isEnd_cons
  | cons b first ih =>
    cases second with
    | nil =>
      rw [escape_nil, List.nil_append] at same
      exact absurd (same ▸ endsToo) not_isEnd_cons
    | cons c second =>
      have next (equal : b = c) (behind : escape specials first ++ rest =
          escape specials second ++ others) :
          (b :: first = c :: second ∧ rest = others) ∨
            Continues specials (b :: first) (c :: second) rest others ∨
            Continues specials (c :: second) (b :: first) others rest := by
        rcases ih behind with ⟨texts, rests⟩ | one | other
        · exact .inl ⟨by rw [equal, texts], rests⟩
        · exact .inr (.inl (one.cons b c))
        · exact .inr (.inr (other.cons c b))
      by_cases special : b ∈ specials
      · by_cases specialToo : c ∈ specials
        · rw [escape_cons_of_mem special, escape_cons_of_mem specialToo] at same
          simp only [List.cons_append, List.cons.injEq, true_and] at same
          exact next same.1 same.2
        · exact .inr (.inr (continues_of_cons specialToo special same.symm))
      · by_cases specialToo : c ∈ specials
        · exact .inr (.inl (continues_of_cons special specialToo same))
        · rw [escape_cons_of_not_mem special, escape_cons_of_not_mem specialToo] at same
          simp only [List.cons_append, List.cons.injEq] at same
          exact next same.1 same.2

theorem quoted_append (text rest : Bytes) : quoted text ++ rest =
    Octet.quote :: (escape quotedSpecials text ++ Octet.quote :: rest) := by
  simp [quoted]

/-- A quoted text ends at its quote, whatever follows. -/
theorem quoted_append_inj (same : quoted first ++ rest = quoted second ++ others) :
    first = second ∧ rest = others := by
  have quote (rest : Bytes) : IsEnd quotedSpecials (Octet.quote :: rest) :=
    isEnd_cons (by decide) (by decide) rest
  have escaped : Octet.backslash ∈ quotedSpecials := by decide
  rw [quoted_append, quoted_append] at same
  rcases escape_append_cases (quote rest) (quote others) (List.cons.inj same).2 with
    ⟨texts, rests⟩ | one | other
  · exact ⟨texts, (List.cons.inj rests).2⟩
  · exact absurd escaped one.single
  · exact absurd escaped other.single

end SeriesWire.Escape
