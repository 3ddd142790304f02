/-! Runs, the longest beginnings of a list that are of one kind. -/
namespace SeriesWire

/-- Where what follows is of another kind, a run ends at one place only. -/
theorem run_append_inj {α : Type} {kind : α → Prop} {first second rest others : List α}
    (one : ∀ value ∈ first, kind value) (two : ∀ value ∈ second, kind value)
    (ends : ∀ value ∈ rest.head?, ¬kind value) (endsAlso : ∀ value ∈ others.head?, ¬kind value)
    (same : first ++ rest = second ++ others) : first = second ∧ rest = others := by
  induction first generalizing second with
  | nil =>
    cases second with
    | nil => exact ⟨rfl, same⟩
    | cons value second =>
      rw [List.nil_append] at same
      subst same
      exact absurd (two value List.mem_cons_self) (ends value rfl)
  | cons value first ih =>
    cases second with
    | nil =>
      rw [List.nil_append] at same
      subst same
      exact absurd (one value List.mem_cons_self) (endsAlso value rfl)
    | cons other second =>
      simp only [List.cons_append, List.cons.injEq, List.mem_cons, forall_eq_or_imp] at same one two
      obtain ⟨rfl, rest⟩ := ih one.2 two.2 same.2
      exact ⟨by rw [same.1], rest⟩

end SeriesWire
