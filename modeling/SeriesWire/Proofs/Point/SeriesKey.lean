import SeriesWire.Point.Build
import SeriesWire.Proofs.Escape
import SeriesWire.Proofs.Text.Utf8

/-! Reading series keys. A backslash has no escape in a name, so one at the end of a name
takes the meaning away from the separator behind it. The separator is then read as part of a
longer name. So two series have different keys unless a name of the one ends in a backslash
and the name that goes on in the other holds the separator. -/
namespace SeriesWire

open Escape

/-- The text ends in a backslash, which what stands behind the text can make its own. -/
def EndsOpen (text : String) : Prop := text.toList.getLast? = some '\\'
deriving Decidable

/-- Keys or values of the tags end open, where those of the others hold the separators that
stand behind keys and between tags. -/
def Tag.Mistakable (tags others : List Tag) : Prop :=
  (∃ tag ∈ tags, EndsOpen tag.1 ∧ ∃ other ∈ others, '=' ∈ other.1.toList) ∨
  (∃ tag ∈ tags.dropLast, EndsOpen tag.2 ∧ ∃ other ∈ others, ',' ∈ other.2.toList)
deriving Decidable

section

variable {specials rest others : Bytes} {first second : String} {tags tagsToo : List Tag}

namespace Tag

/-- What is mistaken in tags is mistaken in more of them. -/
theorem Mistakable.cons {tag tagToo : Tag} (mistaken : Mistakable tags tagsToo) :
    Mistakable (tag :: tags) (tagToo :: tagsToo) := by
  rcases mistaken with ⟨key, member, open_, other, named, holds⟩ |
    ⟨value, member, open_, other, named, holds⟩
  · exact .inl ⟨key, List.mem_cons_of_mem tag member, open_, other,
      List.mem_cons_of_mem tagToo named, holds⟩
  · have more : tags ≠ [] := by
      rintro rfl
      cases member
    refine .inr ⟨value, ?_, open_, other, List.mem_cons_of_mem tagToo named, holds⟩
    rw [List.dropLast_cons_of_ne_nil more]
    exact List.mem_cons_of_mem tag member

end Tag

end

end SeriesWire
