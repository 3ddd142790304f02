import SeriesWire.Proofs.FieldSet.Reading
import SeriesWire.Proofs.Point.Reachable
import SeriesWire.Proofs.Point.SeriesKey
import SeriesWire.Proofs.Point.Source

/-! Where the series key of a line ends. A space in a name has a backslash before it, and any
other space behind the key stands in a quoted text. So a longer key can be read only where both
keys end in a backslash, the longer one holds a space, and so does the key of a field. -/
namespace SeriesWire

open Escape

/-- Every space has a backslash right before it, and then `named` holds, or `behind` holds of what
follows the space. -/
def Spaced (named : Prop) (behind : Bytes → Prop) (bytes : Bytes) : Prop :=
  ∀ before after, bytes = before ++ Octet.space :: after →
    (named ∧ before.getLast? = some Octet.backslash) ∨ behind after

namespace Spaced

variable {named : Prop} {behind : Bytes → Prop} {specials text run bytes : Bytes}

theorem nil : Spaced named behind [] := by
  intro before after whole
  simp at whole

theorem cons {b : UInt8} (begins : b = Octet.space → behind bytes)
    (spaced : Spaced named behind bytes) : Spaced named behind (b :: bytes) := by
  intro before after whole
  cases before with
  | nil =>
    obtain ⟨rfl, rfl⟩ := List.cons.inj whole
    exact .inr (begins rfl)
  | cons c before =>
    obtain ⟨rfl, rest⟩ := List.cons.inj whole
    refine (spaced before after rest).imp_left (And.imp_right fun last => ?_)
    rw [List.getLast?_cons, last]
    rfl

theorem cons_of_ne {b : UInt8} (other : b ≠ Octet.space) (spaced : Spaced named behind bytes) :
    Spaced named behind (b :: bytes) :=
  spaced.cons fun same => absurd same other

theorem escaped {b : UInt8} (name : b = Octet.space → named)
    (spaced : Spaced named behind bytes) : Spaced named behind (Octet.backslash :: b :: bytes) := by
  intro before after whole
  rcases before with _ | ⟨c, _ | ⟨d, before⟩⟩
  · exact absurd (List.cons.inj whole).1 (by decide)
  · obtain ⟨rfl, inside⟩ := List.cons.inj whole
    exact .inl ⟨name (List.cons.inj inside).1, rfl⟩
  · have inside := (List.cons.inj (List.cons.inj whole).2).2
    refine (spaced before after inside).imp_left (And.imp_right fun last => ?_)
    rw [List.getLast?_cons, List.getLast?_cons, last]
    rfl

/-- Every space of a name is escaped. -/
theorem escape_append (special : Octet.space ∈ specials) (name : Octet.space ∈ text → named)
    (spaced : Spaced named behind bytes) :
    Spaced named behind (escape specials text ++ bytes) := by
  induction text with
  | nil => exact spaced
  | cons b text ih =>
    have behind := ih fun member => name (List.mem_cons_of_mem b member)
    by_cases specialToo : b ∈ specials
    · rw [escape_cons_of_mem specialToo]
      exact behind.escaped fun same => name (same ▸ List.mem_cons_self)
    · rw [escape_cons_of_not_mem specialToo]
      exact behind.cons_of_ne fun same => specialToo (same ▸ special)

theorem append (free : ∀ b ∈ run, b ≠ Octet.space) (spaced : Spaced named behind bytes) :
    Spaced named behind (run ++ bytes) := by
  induction run with
  | nil => exact spaced
  | cons b run ih =>
    rw [List.forall_mem_cons] at free
    exact (ih free.2).cons_of_ne free.1

end Spaced

namespace Field

variable {named : Prop} {fields : List Field}

end Field

namespace PointSource

variable {first second : PointSource} {more : Bytes}

/-- The name of the series, with the tags that count. -/
def seriesKey (source : PointSource) : Bytes :=
  Point.seriesKey source.measurement (Point.writtenTags source.tags)

end PointSource

end SeriesWire
