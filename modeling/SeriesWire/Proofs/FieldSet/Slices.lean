import SeriesWire.Proofs.FieldSet.Division

/-! Parts of a set by the numbers of their fields. Every index, every slice and every difference
is checked here, and a part that needs one out of range does not exist. For written fields all
of them are in range, and dividing with the checks does the same as dividing without. -/
namespace SeriesWire

/-- What is left of `whole` without `part`, if it is no less than that. -/
def difference? (whole part : Nat) : Option Nat :=
  if part ≤ whole then some (whole - part) else none

/-- The values from the place `start` on and before the place `stop`, if these are places in
this order and not behind the end. -/
def slice? {ι : Type} (values : List ι) (start stop : Nat) : Option (List ι) :=
  if start ≤ stop ∧ stop ≤ values.length then some ((values.take stop).drop start) else none

theorem difference?_add (part rest : Nat) : difference? (part + rest) part = some rest := by
  rw [difference?, if_pos (Nat.le_add_right part rest), Nat.add_sub_cancel_left]

theorem slice?_append {ι : Type} (front middle back : List ι) :
    slice? (front ++ middle ++ back) front.length (front ++ middle).length = some middle := by
  rw [slice?, if_pos (by simp), List.take_left, List.drop_left]

theorem Field.encode_ne_nil (field : Field) : field.encode ≠ [] := by
  simp [Field.encode]

namespace FieldSet

/-- Where the field with an index begins, or would begin behind the last one. -/
def start? (set : FieldSet) : Nat → Option Nat
  | 0 => some 0
  | index + 1 => set.ends[index]?.map (· + 1)

/-- The fields from the index `first` on and before the index `last`. -/
def part? (set : FieldSet) (first last : Nat) : Option FieldSet := do
  let start ← set.start? first
  let stop ← set.ends[← difference? last 1]?
  let bytes ← slice? set.bytes start stop
  let ends ← slice? set.ends first last
  some ⟨bytes, ← ends.mapM (difference? · start)⟩

/-- Whether the fields from `first` on and before `index` are all that fit into the room, so
that the next one, which ends at `stop`, does not go with them. -/
def isFull? (set : FieldSet) (room : Int) (first index stop : Nat) : Option Bool :=
  if first < index then do
    let length ← difference? stop (← set.start? first)
    some (room < length)
  else some false

/-- The parts of a set from the field `first` on. The fields before `index` are in the part at
hand, and the others end at the places given. -/
def partsFrom? (set : FieldSet) (room : Int) (first index : Nat) :
    List Nat → Option (List FieldSet)
  | [] => do some [← set.part? first set.count]
  | stop :: stops => do
    if ← set.isFull? room first index stop then
      some ((← set.part? first index) :: (← set.partsFrom? room index (index + 1) stops))
    else set.partsFrom? room first (index + 1) stops

def divide? (set : FieldSet) (room : Int) : Option (List FieldSet) :=
  set.partsFrom? room 0 0 set.ends

theorem endsFrom_following (start : Nat) (earlier later : List Field) :
    endsFrom start ((earlier ++ later).map Field.encode) =
      endsFrom start (earlier.map Field.encode) ++
        endsFrom (following start earlier) (later.map Field.encode) := by
  unfold following
  split
  next nothing => simp [nothing, endsFrom]
  next first => exact endsFrom_append first

theorem getLast?_ends {fields : List Field} (nonempty : fields ≠ []) :
    (ofFields fields).ends.getLast? = some (Field.join fields).length := by
  rw [← Nat.zero_add (Field.join fields).length]
  exact getLast?_endsFrom nonempty

/-- The end of the last field before some others. -/
theorem getElem?_ends {fields : List Field} (nonempty : fields ≠ []) (later : List Field) :
    (ofFields (fields ++ later)).ends[fields.length - 1]? = some (Field.join fields).length := by
  have positive := List.length_pos_iff.mpr nonempty
  have last : (endsFrom 0 (fields.map Field.encode))[fields.length - 1]? =
      some (Field.join fields).length := by
    have found := getLast?_ends nonempty
    rwa [List.getLast?_eq_getElem?, ← count, count_ofFields] at found
  change (endsFrom 0 ((fields ++ later).map Field.encode))[fields.length - 1]? = _
  rw [endsFrom_following, List.getElem?_append_left, last]
  rw [length_endsFrom, List.length_map]
  omega

theorem start?_ofFields (earlier group later : List Field) :
    (ofFields (earlier ++ group ++ later)).start? earlier.length =
      some (following 0 earlier) := by
  rw [List.append_assoc]
  cases earlier with
  | nil => rfl
  | cons field earlier =>
    have stop := getElem?_ends (List.cons_ne_nil field earlier) (group ++ later)
    simp only [List.length_cons, Nat.add_sub_cancel] at stop
    simp only [List.length_cons, start?, stop, Option.map_some, following]
    simp

theorem start?_isSome {fields : List Field} {index : Nat} (inside : index ≤ fields.length) :
    ((ofFields fields).start? index).isSome := by
  have start := start?_ofFields (fields.take index) [] (fields.drop index)
  rw [List.append_nil, List.take_append_drop, List.length_take_of_le inside] at start
  rw [start]
  rfl

theorem join_following (earlier : List Field) {later : List Field} (nonempty : later ≠ []) :
    ∃ front, Field.join (earlier ++ later) = front ++ Field.join later ∧
      front.length = following 0 earlier := by
  by_cases first : earlier = []
  · exact ⟨[], by simp [first], by simp [first, following]⟩
  · refine ⟨Field.join earlier ++ [Octet.comma], ?_, ?_⟩
    · rw [Field.join_append first nonempty]
      simp
    · simp [following, first]

theorem mapM_difference?_endsFrom (start : Nat) (texts : List Bytes) :
    (endsFrom start texts).mapM (difference? · start) = some (endsFrom 0 texts) := by
  have shifted (offset : Nat) : (endsFrom (start + offset) texts).mapM (difference? · start) =
      some (endsFrom offset texts) := by
    induction texts generalizing offset with
    | nil => rfl
    | cons text texts ih =>
      simp only [endsFrom, List.mapM_cons, Nat.add_assoc, difference?_add]
      rw [ih]
      rfl
  exact shifted 0

theorem slice?_bytes (earlier : List Field) {group : List Field} (nonempty : group ≠ [])
    (later : List Field) :
    slice? (ofFields (earlier ++ group ++ later)).bytes (following 0 earlier)
      (Field.join (earlier ++ group)).length = some (Field.join group) := by
  obtain ⟨front, joined, length⟩ := join_following earlier nonempty
  have behind : ∃ back, (ofFields (earlier ++ group ++ later)).bytes =
      front ++ Field.join group ++ back := by
    refine ⟨(Field.join (earlier ++ group ++ later)).drop (Field.join (earlier ++ group)).length, ?_⟩
    have taken := Field.take_join (List.append_ne_nil_of_right_ne_nil earlier nonempty) later
    rw [← joined, ← taken, List.length_take, Nat.min_eq_left]
    · exact (List.take_append_drop _ _).symm
    · rw [← taken, List.length_take]
      exact Nat.min_le_right _ _
  obtain ⟨back, bytes⟩ := behind
  rw [bytes, joined, ← length]
  exact slice?_append front (Field.join group) back

theorem slice?_ends (earlier group later : List Field) :
    slice? (ofFields (earlier ++ group ++ later)).ends earlier.length (earlier ++ group).length =
      some (endsFrom (following 0 earlier) (group.map Field.encode)) := by
  have split := slice?_append (endsFrom 0 (earlier.map Field.encode))
    (endsFrom (following 0 earlier) (group.map Field.encode))
    (endsFrom (following 0 (earlier ++ group)) (later.map Field.encode))
  rw [← endsFrom_following, ← endsFrom_following] at split
  simp only [length_endsFrom, List.length_map] at split
  exact split

/-- Neighbouring fields as a part of a set are those fields written by themselves. -/
theorem part?_ofFields (earlier : List Field) {group : List Field} (nonempty : group ≠ [])
    (later : List Field) :
    (ofFields (earlier ++ group ++ later)).part? earlier.length (earlier ++ group).length =
      some (ofFields group) := by
  have start := start?_ofFields earlier group later
  have positive : 1 ≤ (earlier ++ group).length :=
    List.length_pos_iff.mpr (List.append_ne_nil_of_right_ne_nil earlier nonempty)
  have stop := getElem?_ends (List.append_ne_nil_of_right_ne_nil earlier nonempty) later
  have before : difference? (earlier ++ group).length 1 = some ((earlier ++ group).length - 1) :=
    if_pos positive
  have bytes := slice?_bytes earlier nonempty later
  have ends := slice?_ends earlier group later
  have shifted := mapM_difference?_endsFrom (following 0 earlier) (group.map Field.encode)
  simp only [part?, start, before, stop, bytes, ends, shifted, Option.bind_eq_bind,
    Option.bind_some]
  rfl

theorem part?_eq {fields : List Field} {first last : Nat} (ordered : first < last)
    (inside : last ≤ fields.length) :
    (ofFields fields).part? first last = some (ofFields ((fields.take last).drop first)) := by
  have front : fields.take first ++ (fields.take last).drop first = fields.take last := by
    have shorter : (fields.take last).take first = fields.take first := by
      rw [List.take_take, Nat.min_eq_left (Nat.le_of_lt ordered)]
    rw [← shorter, List.take_append_drop]
  have group : (fields.take last).drop first ≠ [] := by
    rw [← List.length_pos_iff, List.length_drop, List.length_take_of_le inside]
    omega
  have part := part?_ofFields (fields.take first) group (fields.drop last)
  rwa [front, List.take_append_drop, List.length_take_of_le inside,
    List.length_take_of_le (by omega)] at part

theorem part?_isSome {fields : List Field} {first last : Nat} (ordered : first < last)
    (inside : last ≤ fields.length) : ((ofFields fields).part? first last).isSome := by
  rw [part?_eq ordered inside]
  rfl

theorem isFull?_ofFields (room : Int) (earlier group : List Field) (field : Field)
    (later : List Field) :
    (ofFields (earlier ++ group ++ field :: later)).isFull? room earlier.length
        (earlier ++ group).length (Field.join (earlier ++ group ++ [field])).length =
      some (decide (group ≠ [] ∧ room < (Field.join (group ++ [field])).length)) := by
  have atHand : earlier.length < (earlier ++ group).length ↔ group ≠ [] := by
    simp [List.length_pos_iff]
  obtain ⟨front, joined, length⟩ := join_following earlier (List.concat_ne_nil field group)
  have start := start?_ofFields earlier group (field :: later)
  have stop : (Field.join (earlier ++ group ++ [field])).length =
      following 0 earlier + (Field.join (group ++ [field])).length := by
    rw [List.append_assoc, joined, List.length_append, length]
  simp only [isFull?, atHand, start, stop, difference?_add, Option.bind_eq_bind, Option.bind_some]
  by_cases first : group = [] <;> simp [first]

/-- Dividing by indices from a run at hand on makes the groups that dividing the fields makes. -/
theorem partsFrom?_ofFields (room : Int) (earlier group fields : List Field)
    (begun : fields = [] → group ≠ []) :
    (ofFields (earlier ++ group ++ fields)).partsFrom? room earlier.length
        (earlier ++ group).length
        (endsFrom (following 0 (earlier ++ group)) (fields.map Field.encode)) =
      some ((Field.groupsFrom room group fields).map ofFields) := by
  -- `begun` carries on: a run without fields is at hand only while fields are still to come.
  induction fields generalizing earlier group with
  | nil =>
    have count : (ofFields (earlier ++ group ++ [])).count = (earlier ++ group).length := by
      rw [count_ofFields, List.append_nil]
    have part := part?_ofFields earlier (begun rfl) []
    simp only [List.map_nil, endsFrom, partsFrom?, count, part, Field.groupsFrom,
      Option.bind_eq_bind, Option.bind_some, List.map_cons]
  | cons field fields ih =>
    have stop : following 0 (earlier ++ group) + field.encode.length =
        (Field.join (earlier ++ group ++ [field])).length := by
      rw [following_add, Nat.zero_add]
    have next : (Field.join (earlier ++ group ++ [field])).length + 1 =
        following 0 (earlier ++ group ++ [field]) := by
      simp [following]
    have behind : (earlier ++ group ++ [field]).length = (earlier ++ group).length + 1 :=
      List.length_append
    have fieldsEq : earlier ++ group ++ field :: fields = earlier ++ group ++ [field] ++ fields :=
      List.append_cons ..
    have isFull := isFull?_ofFields room earlier group field fields
    simp only [List.map_cons, endsFrom, partsFrom?, stop, next, isFull, Field.groupsFrom,
      Option.bind_eq_bind, Option.bind_some, decide_eq_true_eq]
    split
    next full =>
      have part := part?_ofFields earlier full.1 (field :: fields)
      have rest := ih (earlier ++ group) [field] (by simp)
      rw [behind, ← fieldsEq] at rest
      simp only [part, rest, Option.bind_some, List.map_cons]
    next =>
      have rest := ih earlier (group ++ [field]) (by simp)
      rwa [← List.append_assoc, behind, ← fieldsEq] at rest

/-- Written fields are divided with all indices, slices and differences in range. -/
theorem divide?_ofFields (room : Int) {fields : List Field} (nonempty : fields ≠ []) :
    (ofFields fields).divide? room = some ((ofFields fields).divide room) := by
  rw [divide_ofFields room nonempty]
  exact partsFrom?_ofFields room [] [] fields (absurd · nonempty)

/-- The field with an index is written from `start` to `stop`, and a comma stands behind it
unless it is the last. -/
structure Stands (set : FieldSet) (index : Nat) (field : Field) (start stop : Nat) : Prop where
  begins : set.start? index = some start
  ends : set.ends[index]? = some stop
  nonempty : start < stop
  octets : slice? set.bytes start stop = some field.encode
  behind : set.bytes[stop]? = if index + 1 < set.count then some Octet.comma else none

/-- The ends are in order, the last is that of the octets, and between them stand fields. -/
structure Delimited (set : FieldSet) : Prop where
  nonempty : 0 < set.count
  ascending : set.ends.Pairwise (· < ·)
  last : set.ends.getLast? = some set.bytes.length
  fields : ∃ fields : List Field, fields.length = set.count ∧ ∀ index field,
    fields[index]? = some field → ∃ start stop, set.Stands index field start stop

theorem le_of_mem_endsFrom {start stop : Nat} {texts : List Bytes}
    (member : stop ∈ endsFrom start texts) : start ≤ stop := by
  induction texts generalizing start with
  | nil => cases member
  | cons text texts ih =>
    rcases List.mem_cons.mp member with rfl | later
    · exact Nat.le_add_right _ _
    · have behind := ih later
      omega

theorem ascending_endsFrom (start : Nat) (texts : List Bytes) :
    (endsFrom start texts).Pairwise (· < ·) := by
  induction texts generalizing start with
  | nil => exact .nil
  | cons text texts ih =>
    refine List.pairwise_cons.mpr ⟨?_, ih _⟩
    intro stop member
    exact le_of_mem_endsFrom member

theorem stands_ofFields (earlier : List Field) (field : Field) (later : List Field) :
    (ofFields (earlier ++ field :: later)).Stands earlier.length field (following 0 earlier)
      (Field.join (earlier ++ [field])).length := by
  have fieldsEq : earlier ++ field :: later = earlier ++ [field] ++ later := List.append_cons ..
  rw [fieldsEq]
  obtain ⟨front, joined, length⟩ := join_following earlier (List.cons_ne_nil field [])
  constructor
  case begins => exact start?_ofFields earlier [field] later
  case ends =>
    have stop := getElem?_ends (List.concat_ne_nil field earlier) later
    rwa [List.length_append, List.length_singleton, Nat.add_sub_cancel] at stop
  case nonempty =>
    rw [joined, List.length_append, length, Field.join_singleton]
    exact Nat.lt_add_of_pos_right (List.length_pos_iff.mpr field.encode_ne_nil)
  case octets =>
    have octets := slice?_bytes earlier (List.cons_ne_nil field []) later
    rwa [Field.join_singleton] at octets
  case behind =>
    change (Field.join (earlier ++ [field] ++ later))[_]? = _
    by_cases last : later = []
    · simp [last, count_ofFields]
    · have others := List.length_pos_iff.mpr last
      rw [Field.join_append (by simp) last, count_ofFields, if_pos]
      · simp
      · simp [others]

theorem delimited_ofFields {fields : List Field} (nonempty : fields ≠ []) :
    (ofFields fields).Delimited := by
  constructor
  case nonempty => rwa [count_ofFields, List.length_pos_iff]
  case ascending => exact ascending_endsFrom 0 _
  case last => exact getLast?_ends nonempty
  case fields =>
    refine ⟨fields, (count_ofFields fields).symm, ?_⟩
    intro index field found
    obtain ⟨inside, rfl⟩ := List.getElem?_eq_some_iff.mp found
    have split : fields.take index ++ fields[index] :: fields.drop (index + 1) = fields := by
      rw [List.getElem_cons_drop, List.take_append_drop]
    have stands := stands_ofFields (fields.take index) fields[index] (fields.drop (index + 1))
    rw [split, List.length_take_of_le (Nat.le_of_lt inside)] at stands
    exact ⟨_, _, stands⟩

end FieldSet
end SeriesWire
