import SeriesWire.Proofs.Escape

/-! What was escaped can be read back. A name is told from its escaped form by the separators in
it, not by the backslashes, since those of the name itself stay single: what stands right before
a separator is always the backslash set for it. A quoted text is read forward, each backslash
with the octet behind it, so a quote that closes is told from every other one. -/
namespace SeriesWire.Escape

variable {specials : Bytes} (single : Octet.backslash ∉ specials)

/-- Leaves out the octet that stands right before each octet of `specials`. -/
def unescape (specials : Bytes) : Bytes → Bytes
  | [] => []
  | b :: rest =>
    if rest.head?.any (· ∈ specials) then unescape specials rest
    else b :: unescape specials rest

theorem unescape_cons_of_mem {c : UInt8} (special : c ∈ specials) (b : UInt8) (rest : Bytes) :
    unescape specials (b :: c :: rest) = unescape specials (c :: rest) := by
  simp [unescape, special]

theorem unescape_cons_of_not_mem {rest : Bytes} (plain : ∀ c ∈ rest.head?, c ∉ specials)
    (b : UInt8) : unescape specials (b :: rest) = b :: unescape specials rest := by
  rw [unescape, if_neg]
  rw [Option.any_eq_true]
  rintro ⟨c, head, special⟩
  exact plain c head (of_decide_eq_true special)

/-- A special octet in `written` is one of the text, and right before it stands a backslash
that belongs to nothing else. -/
def Marked (specials text written : Bytes) : Prop :=
  ∀ b ∈ specials, ∀ before after, written = before ++ b :: after →
    ∃ first second, text = first ++ b :: second ∧
      before = escape specials first ++ [Octet.backslash] ∧ after = escape specials second

/-- What makes `written` a form from which `text` can be read back by its special octets. -/
structure Reverses (specials text written : Bytes) : Prop where
  marked : Marked specials text written
  restored : unescape specials written = text
  length : written.length = text.length + text.countP (· ∈ specials)

include single

/-- An escaped text begins with no special octet: one that the text begins with has its
backslash before it. -/
theorem head?_escape (text : Bytes) : ∀ b ∈ (escape specials text).head?, b ∉ specials := by
  cases text with
  | nil => simp
  | cons c text =>
    by_cases special : c ∈ specials
    · rw [escape_cons_of_mem special]
      rintro b ⟨⟩
      exact single
    · rw [escape_cons_of_not_mem special]
      rintro b ⟨⟩
      exact special

theorem unescape_escape (text : Bytes) : unescape specials (escape specials text) = text := by
  induction text with
  | nil => rfl
  | cons b text ih =>
    have behind : unescape specials (b :: escape specials text) = b :: text := by
      rw [unescape_cons_of_not_mem (head?_escape single text), ih]
    by_cases special : b ∈ specials
    · rw [escape_cons_of_mem special, unescape_cons_of_mem special, behind]
    · rw [escape_cons_of_not_mem special, behind]

theorem marked_escape (text : Bytes) : Marked specials text (escape specials text) := by
  -- on the text: the octet at hand lies in front of the special one, or is it
  intro b special before after whole
  induction text generalizing before with
  | nil => simp at whole
  | cons c text ih =>
    by_cases specialToo : c ∈ specials
    · rw [escape_cons_of_mem specialToo] at whole
      rcases before with _ | ⟨d, _ | ⟨e, before⟩⟩
      · obtain ⟨rfl, -⟩ := List.cons.inj whole
        exact absurd special single
      · obtain ⟨rfl, behind⟩ := List.cons.inj whole
        obtain ⟨rfl, rfl⟩ := List.cons.inj behind
        exact ⟨[], text, rfl, rfl, rfl⟩
      · obtain ⟨rfl, behind⟩ := List.cons.inj whole
        obtain ⟨rfl, inside⟩ := List.cons.inj behind
        obtain ⟨first, second, rfl, rfl, rest⟩ := ih _ inside
        exact ⟨c :: first, second, rfl, by rw [escape_cons_of_mem specialToo]; rfl, rest⟩
    · rw [escape_cons_of_not_mem specialToo] at whole
      rcases before with _ | ⟨d, before⟩
      · obtain ⟨rfl, -⟩ := List.cons.inj whole
        exact absurd special specialToo
      · obtain ⟨rfl, inside⟩ := List.cons.inj whole
        obtain ⟨first, second, rfl, rfl, rest⟩ := ih _ inside
        exact ⟨c :: first, second, rfl, by rw [escape_cons_of_not_mem specialToo]; rfl, rest⟩

theorem reverses_escape (text : Bytes) : Reverses specials text (escape specials text) where
  marked := marked_escape single text
  restored := unescape_escape single text
  length := length_escape specials text

omit single

/-- A quoted text from some place behind its opening quote on: the text from there, and what
stands behind the quote that closes it. An octet behind a backslash stands for itself. -/
def untilQuote (escaped : Bool) : Bytes → Option (Bytes × Bytes)
  | [] => none
  | b :: rest =>
    if ¬escaped ∧ b = Octet.quote then some ([], rest)
    else if ¬escaped ∧ b = Octet.backslash then untilQuote true rest
    else (untilQuote false rest).map (Prod.map (b :: ·) id)

def unquote : Bytes → Option (Bytes × Bytes)
  | [] => none
  | b :: rest => if b = Octet.quote then untilQuote false rest else none

theorem untilQuote_escape (text rest : Bytes) :
    untilQuote false (escape quotedSpecials text ++ Octet.quote :: rest) = some (text, rest) := by
  induction text with
  | nil => simp [untilQuote]
  | cons b text ih =>
    by_cases special : b ∈ quotedSpecials
    · have distinct : Octet.backslash ≠ Octet.quote := by decide
      simp [escape_cons_of_mem special, untilQuote, distinct, ih]
    · have plain : b ≠ Octet.quote ∧ b ≠ Octet.backslash := by
        simpa [quotedSpecials] using special
      simp [escape_cons_of_not_mem special, untilQuote, plain, ih]

/-- The closing quote is found, however many backslashes and quotes the text ends with and
whatever follows. -/
theorem unquote_quoted (text rest : Bytes) : unquote (quoted text ++ rest) = some (text, rest) := by
  rw [quoted, List.cons_append, List.append_assoc, List.singleton_append, unquote, if_pos rfl,
    untilQuote_escape]

theorem toList_appendEscaped (specials : Bytes) (buffer : Array UInt8) (text : String) :
    (appendEscaped specials buffer text).toList =
      buffer.toList ++ escape specials (Utf8.encode text) := by
  unfold appendEscaped
  induction Utf8.encode text generalizing buffer with
  | nil => simp
  | cons b text ih =>
    rw [List.foldl_cons, ih]
    by_cases special : b ∈ specials
    · simp [special, escape_cons_of_mem special]
    · simp [special, escape_cons_of_not_mem special]

theorem toList_appendQuoted (buffer : Array UInt8) (text : String) :
    (appendQuoted buffer text).toList = buffer.toList ++ quoted (Utf8.encode text) := by
  simp [appendQuoted, toList_appendEscaped, quoted]

/-- Names and texts can be read back from what is written for them, and what is written stands
behind the octets that were there before. -/
theorem escapes_reversible (text : String) (buffer : Array UInt8) :
    Reverses measurementSpecials (Utf8.encode text) (measurement (Utf8.encode text)) ∧
    Reverses tagSpecials (Utf8.encode text) (tag (Utf8.encode text)) ∧
    (∀ rest, unquote (quoted (Utf8.encode text) ++ rest) = some (Utf8.encode text, rest)) ∧
    (∀ other rest others, quoted (Utf8.encode text) ++ rest = quoted (Utf8.encode other) ++ others →
      text = other ∧ rest = others) ∧
    (appendMeasurement buffer text).toList = buffer.toList ++ measurement (Utf8.encode text) ∧
    (appendTag buffer text).toList = buffer.toList ++ tag (Utf8.encode text) ∧
    (appendQuoted buffer text).toList = buffer.toList ++ quoted (Utf8.encode text) := by
  refine ⟨reverses_escape (by decide) _, reverses_escape (by decide) _, unquote_quoted _, ?_,
    toList_appendEscaped _ buffer text, toList_appendEscaped _ buffer text,
    toList_appendQuoted buffer text⟩
  intro other rest others same
  obtain ⟨texts, rests⟩ := quoted_append_inj same
  exact ⟨Utf8.encode_injective texts, rests⟩

/-- Backslashes stand before a comma, before a quote and at the end, and another quote and a
backslash follow. -/
theorem escapes_reversible_backslashes :
    let text := "\\\\,\"\\"
    let other := "\\\\,\"".push '\\'
    let rest := [Octet.quote, Octet.backslash]
    let name := Utf8.encode "\\\\\\,\"\\"
    measurement (Utf8.encode text) = name ∧ unescape measurementSpecials name = Utf8.encode text ∧
    unquote (quoted (Utf8.encode text) ++ rest) = some (Utf8.encode text, rest) ∧
    quoted (Utf8.encode text) ++ rest = quoted (Utf8.encode other) ++ rest ∧ text = other ∧
    (appendQuoted #[Octet.comma] text).toList =
      Octet.comma :: Utf8.encode "\"\\\\\\\\,\\\"\\\\\"" := by
  intro text other rest name
  have written : measurement (Utf8.encode text) = name := by decide
  have same : quoted (Utf8.encode text) ++ rest = quoted (Utf8.encode other) ++ rest := by decide
  obtain ⟨reverses, -, closed, delimited, -, -, appended⟩ := escapes_reversible text #[Octet.comma]
  exact ⟨written, written ▸ reverses.restored, closed rest, same, (delimited other rest rest same).1,
    appended.trans (by decide)⟩

end SeriesWire.Escape
