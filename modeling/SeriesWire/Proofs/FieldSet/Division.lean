import SeriesWire.FieldSet
import SeriesWire.Proofs.Grouping

/-! Dividing a written set is grouping its fields: cutting the octets at the recorded ends
gives the same sets as writing each group of fields anew. The grouping is greedy, told on
the fields themselves and without any end. -/
namespace SeriesWire

/-- The octets of some fields, with a comma between two of them. -/
def Field.join (fields : List Field) : Bytes := (FieldSet.ofFields fields).bytes

/-- Fields taken in order, from a group at hand on. A field goes into the group at hand if
that one is empty or has room for it. -/
def Field.groupsFrom (room : Int) (group : List Field) : List Field → List (List Field)
  | [] => [group]
  | field :: fields =>
    if group ≠ [] ∧ room < (join (group ++ [field])).length then
      group :: groupsFrom room [field] fields
    else groupsFrom room (group ++ [field]) fields

/-- The groups of some fields, each filled before the next one is begun. -/
def Field.groups (room : Int) (fields : List Field) : List (List Field) :=
  groupsFrom room [] fields

def Field.HasRoom (room : Int) (group : List Field) : Prop := (join group).length ≤ room

namespace Field

open Grouping

theorem join_singleton (field : Field) : join [field] = field.encode := by
  simp [join, FieldSet.ofFields, FieldSet.pack]

theorem join_cons (field : Field) {fields : List Field} (others : fields ≠ []) :
    join (field :: fields) = field.encode ++ Octet.comma :: join fields := by
  simp only [join, FieldSet.ofFields, FieldSet.pack, List.map_cons]
  rw [List.intercalate_cons_of_ne_nil (by simpa using others)]
  simp

theorem join_append {earlier later : List Field} (first : earlier ≠ []) (second : later ≠ []) :
    join (earlier ++ later) = join earlier ++ Octet.comma :: join later := by
  induction earlier with
  | nil => exact absurd rfl first
  | cons field earlier ih =>
    by_cases alone : earlier = []
    · rw [alone, List.singleton_append, join_cons field second, join_singleton]
    · rw [List.cons_append, join_cons field (by simp [alone]), ih alone, join_cons field alone]
      simp

theorem take_join {group : List Field} (first : group ≠ []) (fields : List Field) :
    (join (group ++ fields)).take (join group).length = join group := by
  by_cases last : fields = []
  · simp [last]
  · rw [join_append first last, List.take_left]

theorem drop_join {group : List Field} (first : group ≠ []) (fields : List Field) :
    (join (group ++ fields)).drop ((join group).length + 1) = join fields := by
  by_cases last : fields = []
  · rw [last, List.append_nil, List.drop_of_length_le (Nat.le_succ _)]
    rfl
  · rw [join_append first last, ← List.drop_drop, List.drop_left]
    rfl

theorem groupsFrom_grouped {room : Int} {closed : List (List Field)} {values group : List Field}
    (fields : List Field) (begun : group ≠ [])
    (grouped : IsTightGrouping (HasRoom room) values (closed ++ [group])) :
    IsTightGrouping (HasRoom room) (values ++ fields) (closed ++ groupsFrom room group fields) := by
  induction fields generalizing closed values group with
  | nil => simpa [groupsFrom] using grouped
  | cons field fields ih =>
    rw [List.append_cons]
    unfold groupsFrom
    split
    next full =>
      have next := ih (by simp) (grouped.fresh (by simpa [HasRoom] using full.2))
      simpa using next
    next fill =>
      have fit : HasRoom room (group ++ [field]) := Int.not_lt.mp fun excess => fill ⟨begun, excess⟩
      exact ih (by simp) (grouped.extend fit)

theorem groups_grouped (room : Int) {fields : List Field} (nonempty : fields ≠ []) :
    IsTightGrouping (HasRoom room) fields (groups room fields) := by
  obtain ⟨field, fields, rfl⟩ := List.exists_cons_of_ne_nil nonempty
  have first : IsTightGrouping (HasRoom room) [field] [[field]] :=
    IsTightGrouping.nil.fresh (by simp)
  have all : IsTightGrouping (HasRoom room) ([field] ++ fields)
      ([] ++ groupsFrom room [field] fields) := groupsFrom_grouped fields (by simp) first
  simpa [groups, groupsFrom] using all

theorem hasRoom_hereditary (room : Int) : Hereditary (HasRoom room) := by
  rintro part _ ⟨before, behind, rfl⟩ fits
  have front : (join part).length ≤ (join (part ++ behind)).length := by
    by_cases nothing : part = []
    · rw [nothing]
      exact Nat.zero_le _
    · rw [← take_join nothing behind, List.length_take]
      exact Nat.min_le_right _ _
  have back : (join (part ++ behind)).length ≤ (join (before ++ part ++ behind)).length := by
    rw [List.append_assoc]
    by_cases first : before = []
    · rw [first, List.nil_append]
    · rw [← drop_join first (part ++ behind), List.length_drop]
      exact Nat.sub_le _ _
  unfold HasRoom at fits ⊢
  omega

/-- Fields that may be together are not divided. -/
theorem groups_eq_singleton {room : Int} {group : List Field} (nonempty : group ≠ [])
    (allowed : HasRoom room group ∨ ∃ field, group = [field]) : groups room group = [group] := by
  have grouped := groups_grouped room nonempty
  have whole : IsGrouping (HasRoom room) group [group] :=
    ⟨by simp, by simpa using nonempty, by simpa using allowed⟩
  have few := grouped.tight.length_le (hasRoom_hereditary room) grouped.toIsGrouping whole
  have flatten := grouped.flatten
  match found : groups room group with
  | [] =>
    rw [found] at flatten
    exact absurd flatten.symm nonempty
  | [only] =>
    rw [found, List.flatten_singleton] at flatten
    rw [flatten]
  | _ :: _ :: _ =>
    rw [found] at few
    simp at few

end Field

namespace FieldSet

theorem length_endsFrom (start : Nat) (texts : List Bytes) :
    (endsFrom start texts).length = texts.length := by
  induction texts generalizing start with
  | nil => rfl
  | cons text texts ih => simp [endsFrom, ih]

theorem count_ofFields (fields : List Field) : (ofFields fields).count = fields.length := by
  rw [count, ofFields, pack, length_endsFrom, List.length_map]

theorem endsFrom_append {start : Nat} {earlier later : List Field} (first : earlier ≠ []) :
    endsFrom start ((earlier ++ later).map Field.encode) =
      endsFrom start (earlier.map Field.encode) ++
        endsFrom (start + (Field.join earlier).length + 1) (later.map Field.encode) := by
  induction earlier generalizing start with
  | nil => exact absurd rfl first
  | cons field earlier ih =>
    by_cases alone : earlier = []
    · simp [alone, endsFrom, Field.join_singleton]
    · have next : start + field.encode.length + 1 + (Field.join earlier).length + 1 =
          start + (Field.join (field :: earlier)).length + 1 := by
        simp only [Field.join_cons field alone, List.length_append, List.length_cons]
        omega
      simp only [List.cons_append, List.map_cons, endsFrom, ih alone, next]

theorem endsFrom_snoc (start : Nat) (group : List Field) (field : Field) :
    endsFrom start ((group ++ [field]).map Field.encode) =
      endsFrom start (group.map Field.encode) ++
        [start + (Field.join (group ++ [field])).length] := by
  by_cases first : group = []
  · simp [first, endsFrom, Field.join_singleton]
  · rw [endsFrom_append first, Field.join_append first (by simp), Field.join_singleton]
    simp only [List.map_cons, List.map_nil, endsFrom, List.length_append, List.length_cons,
      Nat.add_assoc, Nat.add_comm 1]

/-- Each field ends where the fields up to it do. -/
theorem ends_ofFields (fields : List Field) : (ofFields fields).ends =
    (List.range fields.length).map fun i => (Field.join (fields.take (i + 1))).length := by
  change endsFrom 0 (fields.map Field.encode) = _
  induction fields using List.reverseRecOn with
  | nil => rfl
  | append_singleton fields field ih =>
    have earlier : (List.range fields.length).map
          (fun i => (Field.join ((fields ++ [field]).take (i + 1))).length) =
        (List.range fields.length).map fun i => (Field.join (fields.take (i + 1))).length := by
      refine List.map_congr_left fun i inside => ?_
      rw [List.take_append_of_le_length (List.mem_range.mp inside)]
    have whole : (fields ++ [field]).take (fields.length + 1) = fields ++ [field] :=
      List.take_of_length_le (by simp)
    rw [endsFrom_snoc, ih, List.length_append, List.length_singleton, List.range_succ,
      List.map_append, earlier, List.map_singleton, whole, Nat.zero_add]

theorem getLast?_endsFrom {start : Nat} {group : List Field} (nonempty : group ≠ []) :
    (endsFrom start (group.map Field.encode)).getLast? =
      some (start + (Field.join group).length) := by
  rw [← List.dropLast_concat_getLast nonempty, endsFrom_snoc, List.getLast?_concat]

theorem map_sub_endsFrom (start by_ : Nat) (texts : List Bytes) :
    (endsFrom (by_ + start) texts).map (· - by_) = endsFrom start texts := by
  induction texts generalizing start with
  | nil => rfl
  | cons text texts ih =>
    simp only [endsFrom, List.map_cons, Nat.add_assoc, Nat.add_sub_cancel_left]
    rw [ih]

/-- Where the fields of some groups end that are written one after the other. -/
def endsOfGroups (start : Nat) : List (List Field) → List (List Nat)
  | [] => []
  | group :: groups =>
    endsFrom start (group.map Field.encode) ::
      endsOfGroups (start + (Field.join group).length + 1) groups

/-- Where the field behind a group begins. -/
def following (start : Nat) (group : List Field) : Nat :=
  if group = [] then start else start + (Field.join group).length + 1

theorem following_add (start : Nat) (group : List Field) (field : Field) :
    following start group + field.encode.length =
      start + (Field.join (group ++ [field])).length := by
  unfold following
  split
  next first => simp [first, Field.join_singleton]
  next first =>
    rw [Field.join_append first (by simp), Field.join_singleton]
    simp only [List.length_append, List.length_cons]
    omega

theorem runsFrom_endsFrom (room : Int) (start : Nat) (group fields : List Field) :
    runsFrom room start (following start group)
        (endsFrom start (group.map Field.encode)).reverse
        (endsFrom (following start group) (fields.map Field.encode)) =
      endsOfGroups start (Field.groupsFrom room group fields) := by
  induction fields generalizing start group with
  | nil => simp [endsFrom, runsFrom, Field.groupsFrom, endsOfGroups]
  | cons field fields ih =>
    have atHand : (endsFrom start (group.map Field.encode)).reverse ≠ [] ↔ group ≠ [] := by
      cases group <;> simp [endsFrom]
    simp only [List.map_cons, endsFrom, runsFrom, following_add, Field.groupsFrom,
      Nat.add_sub_cancel_left, atHand]
    split
    next full =>
      -- The new run begins behind the comma that follows the group at hand.
      have begun : following start group = start + (Field.join group).length + 1 := if_neg full.1
      have next := ih (following start group) [field]
      have behind : following (following start group) [field] =
          start + (Field.join (group ++ [field])).length + 1 := by
        rw [← following_add]
        simp [following, Field.join_singleton]
      simp only [behind, List.map_cons, List.map_nil, endsFrom, following_add,
        List.reverse_singleton] at next
      rw [List.reverse_reverse, next, begun]
      rfl
    next =>
      have next := ih start (group ++ [field])
      simp only [endsFrom_snoc, following, List.reverse_append] at next
      simpa using next

theorem cut_endsOfGroups (start : Nat) (groups : List (List Field))
    (nonempty : ∀ group ∈ groups, group ≠ []) :
    cut start (Field.join groups.flatten) (endsOfGroups start groups) = groups.map ofFields := by
  induction groups generalizing start with
  | nil => rfl
  | cons group groups ih =>
    simp only [List.mem_cons, forall_eq_or_imp] at nonempty
    obtain ⟨first, others⟩ := nonempty
    have ends : (endsFrom start (group.map Field.encode)).map (· - start) =
        endsFrom 0 (group.map Field.encode) := map_sub_endsFrom 0 start _
    simp only [endsOfGroups, cut, getLast?_endsFrom first, Option.getD_some, List.map_cons,
      List.flatten_cons, Nat.add_assoc, Nat.add_sub_cancel_left, ends]
    rw [Field.take_join first, Field.drop_join first, ← Nat.add_assoc, ih _ others]
    rfl

/-- Dividing a set of fields groups the fields. -/
theorem divide_ofFields (room : Int) {fields : List Field} (nonempty : fields ≠ []) :
    (ofFields fields).divide room = (Field.groups room fields).map ofFields := by
  have ends : (ofFields fields).runs room = endsOfGroups 0 (Field.groups room fields) :=
    runsFrom_endsFrom room 0 [] fields
  have grouped := Field.groups_grouped room nonempty
  rw [← cut_endsOfGroups 0 _ grouped.nonempty, ← ends, grouped.flatten]
  rfl

end FieldSet
end SeriesWire
