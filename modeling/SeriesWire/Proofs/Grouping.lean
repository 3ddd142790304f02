import Mathlib.Data.List.Chain

/-! Values put into groups of neighbours, where a group of more than one value has to fit.
If every part of a group that fits does so too, no grouping has fewer groups than a tight
one, in which no group could have taken the first value of the next. -/
namespace SeriesWire.Grouping

variable {ι : Type} {fits : List ι → Prop} {values : List ι} {groups : List (List ι)}

/-- Groups of neighbours, each of which fits or is a single value. -/
structure IsGrouping (fits : List ι → Prop) (values : List ι) (groups : List (List ι)) : Prop where
  flatten : groups.flatten = values
  nonempty : ∀ group ∈ groups, group ≠ []
  allowed : ∀ group ∈ groups, fits group ∨ ∃ value, group = [value]

/-- No group fits with the first value of the next. -/
def IsTight (fits : List ι → Prop) (groups : List (List ι)) : Prop :=
  groups.IsChain fun group next => ∀ value ∈ next.head?, ¬fits (group ++ [value])

def Hereditary (fits : List ι → Prop) : Prop :=
  ∀ ⦃part group : List ι⦄, part <:+: group → fits group → fits part

theorem IsGrouping.tail {group : List ι} (grouped : IsGrouping fits values (group :: groups)) :
    IsGrouping fits groups.flatten groups where
  flatten := rfl
  nonempty found member := grouped.nonempty found (List.mem_cons_of_mem _ member)
  allowed found member := grouped.allowed found (List.mem_cons_of_mem _ member)

theorem IsGrouping.drop_one (hereditary : Hereditary fits) {value : ι}
    (grouped : IsGrouping fits (value :: values) groups) :
    ∃ fewer, IsGrouping fits values fewer ∧ fewer.length ≤ groups.length := by
  obtain ⟨first, others, rfl⟩ : ∃ first others, groups = first :: others := by
    apply List.exists_cons_of_ne_nil
    rintro rfl
    exact nomatch grouped.flatten
  obtain ⟨found, rest, rfl⟩ := List.exists_cons_of_ne_nil (grouped.nonempty _ List.mem_cons_self)
  obtain ⟨rfl, rfl⟩ := List.cons.inj grouped.flatten
  cases rest with
  | nil => exact ⟨others, grouped.tail, Nat.le_succ _⟩
  | cons next rest =>
    refine ⟨(next :: rest) :: others, ⟨rfl, ?_, ?_⟩, Nat.le_refl _⟩
    · simpa using grouped.tail.nonempty
    · simp only [List.mem_cons, forall_eq_or_imp]
      refine ⟨.inl ?_, grouped.tail.allowed⟩
      rcases grouped.allowed _ List.mem_cons_self with fit | ⟨_, single⟩
      · exact hereditary (List.suffix_cons _ _).isInfix fit
      · cases single

theorem IsGrouping.drop (hereditary : Hereditary fits) {front : List ι}
    (grouped : IsGrouping fits (front ++ values) groups) :
    ∃ fewer, IsGrouping fits values fewer ∧ fewer.length ≤ groups.length := by
  induction front generalizing groups with
  | nil => exact ⟨groups, grouped, Nat.le_refl _⟩
  | cons value front ih =>
    obtain ⟨fewer, grouped, count⟩ := grouped.drop_one hereditary
    obtain ⟨fewest, grouped, le⟩ := ih grouped
    exact ⟨fewest, grouped, Nat.le_trans le count⟩

/-- The first group of any grouping ends within that of a tight one. -/
theorem IsTight.first_prefix (hereditary : Hereditary fits) {first next : List ι}
    {others : List (List ι)} (tight : IsTight fits (first :: next :: groups))
    (begun : first ≠ []) (nonempty : next ≠ []) {other : List ι}
    (grouped : IsGrouping fits (first :: next :: groups).flatten (other :: others)) :
    other <+: first := by
  obtain ⟨value, rest, rfl⟩ := List.exists_cons_of_ne_nil nonempty
  have full : ¬fits (first ++ [value]) := (List.isChain_cons_cons.mp tight).1 value rfl
  have upTo : first ++ [value] <+: (first :: (value :: rest) :: groups).flatten :=
    ⟨rest ++ groups.flatten, by simp⟩
  have from_ : other <+: (first :: (value :: rest) :: groups).flatten :=
    ⟨others.flatten, grouped.flatten⟩
  have longer : ¬first ++ [value] <+: other := by
    intro part
    rcases grouped.allowed other List.mem_cons_self with fit | ⟨single, rfl⟩
    · exact full (hereditary part.isInfix fit)
    · have short := part.length_le
      simp only [List.length_append, List.length_singleton] at short
      have positive := List.length_pos_iff.mpr begun
      omega
  rcases List.prefix_or_prefix_of_prefix from_ upTo with short | part
  · rcases List.prefix_concat_iff.mp short with rfl | within
    · exact absurd (List.prefix_refl _) longer
    · exact within
  · exact absurd part longer

/-- A tight grouping has the fewest groups. -/
theorem IsTight.length_le (hereditary : Hereditary fits) {groups others : List (List ι)}
    (tight : IsTight fits groups) (grouped : IsGrouping fits values groups)
    (other : IsGrouping fits values others) : groups.length ≤ others.length := by
  induction groups generalizing values others with
  | nil => exact Nat.zero_le _
  | cons first groups ih =>
    obtain rfl := grouped.flatten
    have begun := grouped.nonempty first List.mem_cons_self
    obtain ⟨another, others, rfl⟩ : ∃ another rest, others = another :: rest := by
      apply List.exists_cons_of_ne_nil
      rintro rfl
      exact begun (List.append_eq_nil_iff.mp other.flatten.symm).1
    cases groups with
    | nil => simp
    | cons next groups =>
      have nonempty := grouped.nonempty next (by simp)
      obtain ⟨rest, rfl⟩ := tight.first_prefix hereditary begun nonempty other
      -- What is left of the first group is dropped from the others.
      have left : others.flatten = rest ++ (next :: groups).flatten := by
        have same := other.flatten
        rwa [List.flatten_cons, List.flatten_cons, List.append_assoc,
          List.append_cancel_left_eq] at same
      have behind := other.tail
      rw [left] at behind
      obtain ⟨fewer, behind, count⟩ := behind.drop hereditary
      exact Nat.succ_le_succ (Nat.le_trans (ih tight.tail grouped.tail behind) count)

structure IsTightGrouping (fits : List ι → Prop) (values : List ι) (groups : List (List ι)) : Prop
    extends IsGrouping fits values groups where
  tight : IsTight fits groups

namespace IsTightGrouping

theorem nil : IsTightGrouping fits [] [] := ⟨⟨rfl, by simp, by simp⟩, .nil⟩

theorem fresh (grouped : IsTightGrouping fits values groups) {value : ι}
    (full : ∀ last ∈ groups.getLast?, ¬fits (last ++ [value])) :
    IsTightGrouping fits (values ++ [value]) (groups ++ [[value]]) where
  flatten := by simp [grouped.flatten]
  nonempty := by simpa [or_imp, forall_and] using grouped.nonempty
  allowed := by
    simp only [List.mem_append, List.mem_singleton]
    rintro group (earlier | rfl)
    · exact grouped.allowed group earlier
    · exact .inr ⟨value, rfl⟩
  tight := List.isChain_append.mpr ⟨grouped.tight, List.isChain_singleton _, by simpa using full⟩

theorem extend {closed : List (List ι)} {last : List ι} {value : ι}
    (grouped : IsTightGrouping fits values (closed ++ [last])) (fit : fits (last ++ [value])) :
    IsTightGrouping fits (values ++ [value]) (closed ++ [last ++ [value]]) where
  flatten := by simp [← grouped.flatten]
  nonempty := by
    simp only [List.mem_append, List.mem_singleton]
    rintro group (earlier | rfl)
    · exact grouped.nonempty group (List.mem_append_left _ earlier)
    · simp
  allowed := by
    simp only [List.mem_append, List.mem_singleton]
    rintro group (earlier | rfl)
    · exact grouped.allowed group (List.mem_append_left _ earlier)
    · exact .inl fit
  tight := by
    have begun : last ≠ [] := grouped.nonempty last (by simp)
    have tight := List.isChain_append.mp grouped.tight
    refine List.isChain_append.mpr ⟨tight.1, List.isChain_singleton _, ?_⟩
    simpa [List.head?_append_of_ne_nil _ begun] using tight.2.2

end IsTightGrouping

end SeriesWire.Grouping
