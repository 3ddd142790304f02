import SeriesWire.Proofs.KeyTable.LastValues

/-! Which entries count for a table. Those do that no later entry with their key replaces, and
the order of entries with different keys does not matter. -/
namespace SeriesWire

variable {α : Type}

theorem lastValue?_append (key : String) (earlier later : List (String × α)) :
    lastValue? key (earlier ++ later) = (lastValue? key later).or (lastValue? key earlier) := by
  rw [lastValue?, List.reverse_append, List.lookup_append]
  rfl

theorem lastValue?_cons (key : String) (entry : String × α) (later : List (String × α)) :
    lastValue? key (entry :: later) =
      (lastValue? key later).or (if key = entry.1 then some entry.2 else none) := by
  rw [← List.singleton_append, lastValue?_append]
  exact congrArg _ (lastValue?_concat key [] entry)

theorem lastValue?_eq_none_iff {key : String} {entries : List (String × α)} :
    lastValue? key entries = none ↔ key ∉ entries.map Prod.fst := by
  induction entries with
  | nil => simp [lastValue?]
  | cons entry later ih =>
    rw [lastValue?_cons, Option.or_eq_none_iff, ih, List.map_cons, List.mem_cons, not_or, and_comm]
    simp

/-- An entry with a later one of its key is as good as none. -/
theorem lastValue?_replaced {entry : String × α} {later : List (String × α)}
    (replaced : entry.1 ∈ later.map Prod.fst) (key : String) (earlier : List (String × α)) :
    lastValue? key (earlier ++ entry :: later) = lastValue? key (earlier ++ later) := by
  rw [lastValue?_append, lastValue?_append, lastValue?_cons]
  by_cases named : key = entry.1
  · subst named
    have given := lastValue?_eq_none_iff.not_left.mpr replaced
    obtain ⟨value, last⟩ := Option.ne_none_iff_exists'.mp given
    rw [last]
    rfl
  · rw [if_neg named, Option.or_none]

/-- The same entries in another order, in which those of one key stand as they stood. -/
def Reordered (entries others : List (String × α)) : Prop :=
  ∀ key, others.filter (·.1 = key) = entries.filter (·.1 = key)

theorem lastValue?_filter (key : String) (entries : List (String × α)) :
    lastValue? key (entries.filter (·.1 = key)) = lastValue? key entries := by
  induction entries with
  | nil => rfl
  | cons entry later ih =>
    rw [lastValue?_cons, List.filter_cons]
    split
    next named => rw [lastValue?_cons, ih]
    next other =>
      have apart : key ≠ entry.1 := by simpa [eq_comm] using other
      rw [ih, if_neg apart, Option.or_none]

namespace Reordered

variable {entries others : List (String × α)}

theorem refl (entries : List (String × α)) : Reordered entries entries := fun _ => rfl

theorem lastValue?_eq (reordered : Reordered entries others) (key : String) :
    lastValue? key others = lastValue? key entries := by
  rw [← lastValue?_filter key others, reordered key, lastValue?_filter]

theorem mem_iff (reordered : Reordered entries others) (entry : String × α) :
    entry ∈ others ↔ entry ∈ entries := by
  have same := congrArg (entry ∈ ·) (reordered entry.1)
  simpa using same

/-- Entries with different keys can be put in any order. -/
theorem of_perm (distinct : (entries.map Prod.fst).Nodup) (perm : others.Perm entries) :
    Reordered entries others := by
  intro key
  have once : (entries.filter (·.1 = key)).length ≤ 1 := by
    have keys : (entries.filter (·.1 = key)).map Prod.fst =
        List.replicate (entries.filter (·.1 = key)).length key := by
      refine List.eq_replicate_iff.mpr ⟨List.length_map _, fun name member => ?_⟩
      obtain ⟨entry, kept, rfl⟩ := List.mem_map.mp member
      simpa using (List.mem_filter.mp kept).2
    have sublist : ((entries.filter (·.1 = key)).map Prod.fst).Sublist (entries.map Prod.fst) :=
      List.filter_sublist.map _
    rw [keys] at sublist
    exact List.nodup_replicate.mp (distinct.sublist sublist)
  have filtered := perm.filter (·.1 = key)
  generalize entries.filter (·.1 = key) = kept at once filtered ⊢
  cases kept with
  | nil => exact List.perm_nil.mp filtered
  | cons entry more =>
    have alone : more = [] := by simpa using once
    subst alone
    exact List.perm_singleton.mp filtered

end Reordered

/-- The entries that no later one replaces, in the order in which they stand. -/
def lastEntries : List (String × α) → List (String × α)
  | [] => []
  | entry :: later =>
    if entry.1 ∈ later.map Prod.fst then lastEntries later else entry :: lastEntries later

theorem mem_lastEntries_iff {key : String} {value : α} {entries : List (String × α)} :
    (key, value) ∈ lastEntries entries ↔ lastValue? key entries = some value := by
  induction entries with
  | nil => simp [lastEntries, lastValue?]
  | cons entry later ih =>
    obtain ⟨name, content⟩ := entry
    rw [lastValue?_cons, lastEntries]
    split
    next replaced =>
      have whole := lastValue?_replaced replaced key []
      simp only [List.nil_append] at whole
      rw [ih, ← lastValue?_cons, whole]
    next last =>
      rw [List.mem_cons, ih]
      by_cases named : key = name
      · subst named
        simp [lastValue?_eq_none_iff.mpr last, eq_comm]
      · simp [named]

theorem nodup_lastEntries (entries : List (String × α)) : (lastEntries entries).Nodup := by
  induction entries with
  | nil => exact List.nodup_nil
  | cons entry later ih =>
    rw [lastEntries]
    split
    next => exact ih
    next last =>
      refine List.nodup_cons.mpr ⟨fun member => ?_, ih⟩
      have again : lastValue? entry.1 later = some entry.2 := mem_lastEntries_iff.mp member
      rw [lastValue?_eq_none_iff.mpr last] at again
      cases again

/-- A table has just the entries that no later one replaces. -/
theorem KeyTable.perm_lastEntries (entries : List (String × α)) :
    (ofList entries).toList.Perm (lastEntries entries) := by
  have distinct := (ofList entries).ascending.nodup
  apply (List.perm_ext_iff_of_nodup distinct (nodup_lastEntries entries)).mpr
  rintro ⟨key, value⟩
  rw [mem_lastEntries_iff]
  exact (isLastValues_ofList entries).mem_iff key value

end SeriesWire
