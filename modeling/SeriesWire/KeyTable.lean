/-! Tables from text keys, in ascending order of the keys. A key occurs once; inserting
it again replaces its value. Texts are ordered by their code points, which is also the
order of their octets in UTF-8. -/
namespace SeriesWire

variable {α : Type}

/-- Entries in strictly ascending order of their keys. -/
def Ascending (entries : List (String × α)) : Prop :=
  entries.Pairwise fun a b => a.1 < b.1

/-- Puts an entry in the place of its own key, or before the first larger key. -/
def insertEntry (key : String) (value : α) : List (String × α) → List (String × α)
  | [] => [(key, value)]
  | e :: es =>
    if key = e.1 then (key, value) :: es
    else if key < e.1 then (key, value) :: e :: es
    else e :: insertEntry key value es

theorem mem_insertEntry {key : String} {value : α} {x : String × α} {es : List (String × α)}
    (h : x ∈ insertEntry key value es) : x = (key, value) ∨ x ∈ es := by
  induction es with
  | nil => exact .inl (List.mem_singleton.mp h)
  | cons e es ih =>
    rw [insertEntry] at h
    split at h
    · exact (List.mem_cons.mp h).imp id (List.mem_cons_of_mem _)
    · split at h
      · exact List.mem_cons.mp h
      · rcases List.mem_cons.mp h with h | h
        · exact .inr (h ▸ List.mem_cons_self)
        · exact (ih h).imp id (List.mem_cons_of_mem _)

theorem Ascending.insertEntry {key : String} {value : α} {es : List (String × α)}
    (h : Ascending es) : Ascending (insertEntry key value es) := by
  induction es with
  | nil => exact List.pairwise_singleton _ _
  | cons e es ih =>
    obtain ⟨he, hes⟩ := List.pairwise_cons.mp h
    rw [SeriesWire.insertEntry]
    split
    case isTrue heq => exact List.pairwise_cons.mpr ⟨fun a ha => heq ▸ he a ha, hes⟩
    case isFalse hne =>
      split
      case isTrue hlt =>
        refine List.pairwise_cons.mpr ⟨fun a ha => ?_, h⟩
        rcases List.mem_cons.mp ha with rfl | ha
        · exact hlt
        · exact String.lt_trans hlt (he a ha)
      case isFalse hlt =>
        refine List.pairwise_cons.mpr ⟨fun a ha => ?_, ih hes⟩
        rcases mem_insertEntry ha with rfl | ha
        · exact Std.lt_of_le_of_ne (String.not_lt.mp hlt) (Ne.symm hne)
        · exact he a ha

structure KeyTable (α : Type) where
  toList : List (String × α)
  ascending : Ascending toList

namespace KeyTable

def empty : KeyTable α := ⟨[], .nil⟩

/-- Gives `key` the value `value`, whatever it had before. -/
def insert (table : KeyTable α) (key : String) (value : α) : KeyTable α :=
  ⟨insertEntry key value table.toList, table.ascending.insertEntry⟩

/-- The table of some entries; of two with one key the later one stays. -/
def ofList (entries : List (String × α)) : KeyTable α :=
  entries.foldl (fun table e => table.insert e.1 e.2) empty

end KeyTable

end SeriesWire
