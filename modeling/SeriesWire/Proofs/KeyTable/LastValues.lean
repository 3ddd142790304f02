import Mathlib.Data.List.Induction
import SeriesWire.KeyTable

/-! What a table keeps of its entries: every key once, with the value that it was given last,
in ascending order. No other list does, so a table of such a list is the list itself. -/
namespace SeriesWire

variable {α : Type}

/-- The value that a key was given last. -/
def lastValue? (key : String) (entries : List (String × α)) : Option α :=
  entries.reverse.lookup key

/-- All keys of some entries with their last values, in ascending order of the keys. -/
structure IsLastValues (entries kept : List (String × α)) : Prop where
  ascending : Ascending kept
  mem_iff : ∀ key value, (key, value) ∈ kept ↔ lastValue? key entries = some value

theorem lastValue?_concat (key : String) (entries : List (String × α)) (entry : String × α) :
    lastValue? key (entries ++ [entry]) =
      if key = entry.1 then some entry.2 else lastValue? key entries := by
  unfold lastValue?
  rw [List.reverse_concat, List.lookup_cons]
  split
  next same => rw [if_pos (eq_of_beq same)]
  next other => rw [if_neg (by simpa using other)]

theorem Ascending.nodup {entries : List (String × α)} (ascending : Ascending entries) :
    entries.Nodup := by
  refine List.Pairwise.imp ?_ ascending
  rintro entry _ less rfl
  exact String.lt_irrefl _ less

theorem Ascending.eq_of_mem_iff {first second : List (String × α)} (ascending : Ascending first)
    (also : Ascending second) (same : ∀ entry, entry ∈ first ↔ entry ∈ second) :
    first = second := by
  refine List.Perm.eq_of_pairwise ?_ ascending also ?_
  · intro one other _ _ less greater
    exact absurd (String.lt_trans less greater) (String.lt_irrefl _)
  · exact (List.perm_ext_iff_of_nodup ascending.nodup also.nodup).mpr same

theorem IsLastValues.unique {entries first second : List (String × α)}
    (one : IsLastValues entries first) (other : IsLastValues entries second) : first = second := by
  refine one.ascending.eq_of_mem_iff other.ascending ?_
  rintro ⟨key, value⟩
  rw [one.mem_iff, other.mem_iff]

theorem Ascending.not_mem_tail {key : String} {value other : α} {entries : List (String × α)}
    (ascending : Ascending ((key, value) :: entries)) : (key, other) ∉ entries := by
  intro member
  exact absurd ((List.pairwise_cons.mp ascending).1 _ member) (String.lt_irrefl key)

theorem mem_insertEntry_iff {key : String} {value : α} {entries : List (String × α)}
    (ascending : Ascending entries) (name : String) (content : α) :
    (name, content) ∈ insertEntry key value entries ↔
      if name = key then content = value else (name, content) ∈ entries := by
  induction entries with
  | nil =>
    simp only [insertEntry, List.mem_singleton, Prod.mk.injEq, List.not_mem_nil]
    split <;> simp_all
  | cons entry entries ih =>
    obtain ⟨first, held⟩ := entry
    obtain ⟨larger, rest⟩ := List.pairwise_cons.mp ascending
    unfold insertEntry
    split
    next same =>
      simp only at same
      subst same
      by_cases named : name = key
      · subst named
        simp [ascending.not_mem_tail]
      · simp [named]
    next other =>
      simp only at other
      split
      next less =>
        by_cases named : name = key
        · -- All keys behind the place of a new key are larger than it.
          have absent : (key, content) ∉ (first, held) :: entries := by
            rintro (_ | ⟨_, member⟩)
            · exact other rfl
            · exact String.lt_irrefl key (String.lt_trans less (larger _ member))
          subst named
          rw [List.mem_cons, if_pos rfl]
          simp [absent]
        · simp [named]
      next =>
        rw [List.mem_cons, ih rest]
        by_cases named : name = key
        · subst named
          simp [other]
        · simp [named]

namespace KeyTable

theorem ofList_concat (entries : List (String × α)) (entry : String × α) :
    ofList (entries ++ [entry]) = (ofList entries).insert entry.1 entry.2 := by
  simp [ofList]

theorem isLastValues_ofList (entries : List (String × α)) :
    IsLastValues entries (ofList entries).toList where
  ascending := (ofList entries).ascending
  mem_iff name content := by
    induction entries using List.reverseRecOn with
    | nil => simp [ofList, empty, lastValue?]
    | append_singleton entries entry ih =>
      rw [ofList_concat, insert, mem_insertEntry_iff (ofList entries).ascending,
        lastValue?_concat]
      split
      · simp [eq_comm]
      · exact ih

theorem mem_of_mem_ofList {entries : List (String × α)} {entry : String × α}
    (member : entry ∈ (ofList entries).toList) : entry ∈ entries := by
  obtain ⟨key, value⟩ := entry
  have last := ((isLastValues_ofList entries).mem_iff key value).mp member
  obtain ⟨later, earlier, split, -⟩ := List.lookup_eq_some_iff.mp last
  exact List.mem_reverse.mp (split ▸ List.mem_append_right _ List.mem_cons_self)

end KeyTable

theorem Ascending.isLastValues {entries : List (String × α)} (ascending : Ascending entries) :
    IsLastValues entries entries where
  ascending := ascending
  mem_iff key value := by
    unfold lastValue?
    constructor
    · intro member
      obtain ⟨earlier, later, split⟩ := List.append_of_mem member
      refine List.lookup_eq_some_iff.mpr ⟨later.reverse, earlier.reverse, by simp [split], ?_⟩
      intro entry behind
      subst split
      have less := (List.pairwise_cons.mp (List.pairwise_append.mp ascending).2.1).1 entry
        (List.mem_reverse.mp behind)
      exact bne_iff_ne.mpr fun same => String.lt_irrefl _ (same ▸ less)
    · intro last
      obtain ⟨later, earlier, split, -⟩ := List.lookup_eq_some_iff.mp last
      exact List.mem_reverse.mp (split ▸ List.mem_append_right _ List.mem_cons_self)

/-- A table of entries that are in order has just these entries. -/
theorem KeyTable.toList_ofList {entries : List (String × α)} (ascending : Ascending entries) :
    (ofList entries).toList = entries :=
  (isLastValues_ofList entries).unique ascending.isLastValues

end SeriesWire
