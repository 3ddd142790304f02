import Mathlib.Data.List.Basic
import SeriesWire.ClientConfig.Yaml
import SeriesWire.Proofs.Text.LowerCase

/-! Which trees hold settings, and what they set. Every entry of a map must set something, and one
of them the address; the last entry of a setting counts. Else the first entry that sets nothing is
the fault, and only a map without such an entry can lack an address. -/
namespace SeriesWire.ClientConfig

def Setting.spellings : Setting → List String
  | .address => ["addr", "address", "target"]
  | .payloadSize => ["payload_size"]

/-- A name with its words joined by `_`. -/
def joinWords (name : List Char) : List Char := name.map fun c => if c = '-' then '_' else c

/-- The key is a text that spells the setting, in any case and with its words joined by `-`
or by `_`. -/
def Names (setting : Setting) (key : Yaml) : Prop :=
  ∃ text lowered, key = .string text ∧ Text.LowerCase text.toList lowered ∧
    String.ofList (joinWords lowered) ∈ setting.spellings

/-- The value says a number of octets, as a number in the range of sizes or as a text. -/
inductive SaysSize : Yaml → Nat → Prop where
  | integer {value : Int64} {size : Nat} : value.toInt = size → size < UInt64.size →
      SaysSize (.integer value) size
  | text {text : String} {size : Nat} : ByteSize.parse text = .ok size →
      SaysSize (.string text) size

/-- The entry sets something. -/
inductive ValidEntry : Yaml × Yaml → Prop where
  | address {key : Yaml} {address : String} : Names .address key →
      ValidEntry (key, .string address)
  | payloadSize {key value : Yaml} {size : Nat} : Names .payloadSize key → SaysSize value size →
      ValidEntry (key, value)

/-- The tree holds settings, with an address among them. -/
inductive ValidTree : Yaml → Prop where
  | string (address : String) : ValidTree (.string address)
  | hash {entries : List (Yaml × Yaml)} : (∀ entry ∈ entries, ValidEntry entry) →
      (∃ entry ∈ entries, Names .address entry.1) → ValidTree (.hash entries)

/-- Why a value says no number of octets. -/
inductive SizeFault : Yaml → PayloadSizeError → Prop where
  | outOfRange {value : Int64} : value.toInt < 0 → SizeFault (.integer value) (.outOfRange value)
  | unreadable {text : String} {cause : ByteSizeError} : ByteSize.parse text = .error cause →
      SizeFault (.string text) (.unreadable text cause)
  | wrongType {value : Yaml} : (∀ number, value ≠ .integer number) →
      (∀ text, value ≠ .string text) → SizeFault value .wrongType

/-- Why an entry sets nothing. -/
inductive Offends : Yaml × Yaml → ConfigError → Prop where
  | keyNotString {key value : Yaml} : (∀ text, key ≠ .string text) →
      Offends (key, value) .keyNotString
  | unknownKey {text : String} {value : Yaml} : (∀ setting, ¬Names setting (.string text)) →
      Offends (.string text, value) (.unknownKey text)
  | addressNotString {text : String} {value : Yaml} : Names .address (.string text) →
      (∀ address, value ≠ .string address) → Offends (.string text, value) (.addressNotString text)
  | invalidPayloadSize {text : String} {value : Yaml} {cause : PayloadSizeError} :
      Names .payloadSize (.string text) → SizeFault value cause →
      Offends (.string text, value) (.invalidPayloadSize text cause)

/-- What is reported of a tree. -/
inductive TreeFault : Yaml → ConfigError → Prop where
  | entry {earlier later : List (Yaml × Yaml)} {entry : Yaml × Yaml} {fault : ConfigError} :
      (∀ entry ∈ earlier, ValidEntry entry) → Offends entry fault →
      TreeFault (.hash (earlier ++ entry :: later)) fault
  | noAddress {entries : List (Yaml × Yaml)} : (∀ entry ∈ entries, ValidEntry entry) →
      (∀ entry ∈ entries, ¬Names .address entry.1) → TreeFault (.hash entries) .noAddress
  | wrongType {tree : Yaml} : (∀ text, tree ≠ .string text) →
      (∀ entries, tree ≠ .hash entries) → TreeFault tree .wrongType

/-- The entry is the last one of the setting. -/
def IsLast (setting : Setting) (entries : List (Yaml × Yaml)) (entry : Yaml × Yaml) : Prop :=
  Names setting entry.1 ∧ ∃ earlier later, entries = earlier ++ entry :: later ∧
    ∀ other ∈ later, ¬Names setting other.1

/-- The size that some entries set. Without any, and with zero, it is the default. -/
inductive SetsSize (entries : List (Yaml × Yaml)) : Nat → Prop where
  | none : (∀ entry ∈ entries, ¬Names .payloadSize entry.1) → SetsSize entries 512
  | zero {key value : Yaml} : IsLast .payloadSize entries (key, value) → SaysSize value 0 →
      SetsSize entries 512
  | some {key value : Yaml} {size : Nat} : IsLast .payloadSize entries (key, value) →
      SaysSize value size → size ≠ 0 → SetsSize entries size

/-- The settings that a tree holds. -/
inductive Sets : Yaml → ClientConfig → Prop where
  | string (address : String) : Sets (.string address) ⟨address, 512⟩
  | hash {entries : List (Yaml × Yaml)} {key : Yaml} {address : String} {size : Nat} :
      IsLast .address entries (key, .string address) → SetsSize entries size →
      Sets (.hash entries) ⟨address, size⟩

theorem ofKey?_eq_some_iff {setting : Setting} {key : String} :
    Setting.ofKey? key = some setting ↔
      String.ofList (joinWords (Text.lower key.toList)) ∈ setting.spellings := by
  change (let name := String.ofList (joinWords (Text.lower key.toList))
    if name = "addr" ∨ name = "address" ∨ name = "target" then some Setting.address
    else if name = "payload_size" then some Setting.payloadSize else none) = some setting ↔ _
  generalize String.ofList (joinWords (Text.lower key.toList)) = name
  cases setting with
  | address =>
    simp only [Setting.spellings, List.mem_cons, List.not_mem_nil, or_false]
    split
    · simp [*]
    · simp [*]
  | payloadSize =>
    simp only [Setting.spellings, List.mem_singleton]
    split
    next named => rcases named with rfl | rfl | rfl <;> decide
    next => simp

/-- A name that spells a setting is in ASCII, and so was its lower case. -/
theorem ascii_of_spelling {setting : Setting} {lowered : List Char}
    (spelling : String.ofList (joinWords lowered) ∈ setting.spellings) :
    ∀ c ∈ lowered, c.toNat < 0x80 := by
  have spellings : ∀ name ∈ setting.spellings, ∀ c ∈ name.toList, c.toNat < 0x80 := by
    cases setting <;> simp [Setting.spellings]
  intro c member
  have small := spellings _ spelling
  rw [String.toList_ofList] at small
  by_cases dash : c = '-'
  · rw [dash]
    decide
  · have kept : c ∈ joinWords lowered := List.mem_map.mpr ⟨c, member, if_neg dash⟩
    exact small c kept

theorem names_iff {setting : Setting} {text : String} :
    Names setting (.string text) ↔ Setting.ofKey? text = some setting := by
  rw [ofKey?_eq_some_iff]
  constructor
  · rintro ⟨_, lowered, ⟨⟩, lowerCase, spelling⟩
    rwa [← lowerCase.eq_lower (ascii_of_spelling spelling)]
  · exact fun spelling => ⟨text, _, rfl, Text.lowerCase_lower _, spelling⟩

theorem Names.unique {setting other : Setting} {key : Yaml} (named : Names setting key)
    (namedToo : Names other key) : setting = other := by
  obtain ⟨text, _, rfl, -⟩ := id named
  exact Option.some.inj ((names_iff.mp named).symm.trans (names_iff.mp namedToo))

theorem SaysSize.payloadSizeOf_eq {value : Yaml} {size : Nat} (told : SaysSize value size) :
    payloadSizeOf value = .ok size := by
  cases told with
  | @integer value _ same small =>
    have positive : ¬value < 0 := by
      rw [Int64.lt_iff_toInt_lt, same, Int64.toInt_zero]
      omega
    rw [payloadSizeOf, if_neg positive, same, Int.toNat_natCast]
  | text parsed =>
    rw [payloadSizeOf, parsed]
    rfl

theorem SizeFault.payloadSizeOf_eq {value : Yaml} {cause : PayloadSizeError}
    (told : SizeFault value cause) : payloadSizeOf value = .error cause := by
  cases told with
  | outOfRange negative =>
    rw [payloadSizeOf, if_pos]
    rw [Int64.lt_iff_toInt_lt, Int64.toInt_zero]
    exact negative
  | unreadable refused =>
    rw [payloadSizeOf, refused]
    rfl
  | wrongType notNumber notText =>
    cases value with
    | integer number => exact absurd rfl (notNumber number)
    | string text => exact absurd rfl (notText text)
    | _ => rfl

/-- A value has a size or a fault. -/
theorem exists_saysSize_or_sizeFault (value : Yaml) :
    (∃ size, SaysSize value size) ∨ ∃ cause, SizeFault value cause := by
  cases value with
  | integer value =>
    by_cases negative : value.toInt < 0
    · exact .inr ⟨_, .outOfRange negative⟩
    · have small : value.toInt < 2 ^ 63 := value.toInt_lt
      exact .inl ⟨value.toInt.toNat, .integer (by omega) (by change _ < 2 ^ 64; omega)⟩
  | string text =>
    cases parsed : ByteSize.parse text with
    | ok size => exact .inl ⟨size, .text parsed⟩
    | error cause => exact .inr ⟨_, .unreadable parsed⟩
  | _ => exact .inr ⟨_, .wrongType (by rintro _ ⟨⟩) (by rintro _ ⟨⟩)⟩

theorem addEntry_address {key : Yaml} (named : Names .address key) (entries : Entries)
    (address : String) :
    addEntry entries (key, .string address) = .ok { entries with address := some address } := by
  obtain ⟨text, _, rfl, -⟩ := id named
  simp only [addEntry, names_iff.mp named]

theorem addEntry_payloadSize {key value : Yaml} {size : Nat} (named : Names .payloadSize key)
    (told : SaysSize value size) (entries : Entries) :
    addEntry entries (key, value) = .ok { entries with payloadSize := size } := by
  obtain ⟨text, _, rfl, -⟩ := id named
  simp only [addEntry, names_iff.mp named, told.payloadSizeOf_eq]

theorem Offends.addEntry_eq {entry : Yaml × Yaml} {fault : ConfigError}
    (offends : Offends entry fault) (entries : Entries) :
    addEntry entries entry = .error fault := by
  cases offends with
  | @keyNotString key _ notText =>
    cases key with
    | string text => exact absurd rfl (notText text)
    | _ => rfl
  | @unknownKey text _ unknown =>
    cases named : Setting.ofKey? text with
    | none => simp only [addEntry, named]
    | some setting => exact absurd (names_iff.mpr named) (unknown setting)
  | @addressNotString _ value named notText =>
    cases value with
    | string text => exact absurd rfl (notText text)
    | _ => simp only [addEntry, names_iff.mp named]
  | invalidPayloadSize named told =>
    simp only [addEntry, names_iff.mp named, told.payloadSizeOf_eq]

/-- An entry sets something or has a fault. -/
theorem valid_or_offends (entry : Yaml × Yaml) :
    ValidEntry entry ∨ ∃ fault, Offends entry fault := by
  obtain ⟨key, value⟩ := entry
  cases key with
  | string text =>
    cases named : Setting.ofKey? text with
    | none =>
      refine .inr ⟨_, .unknownKey fun setting spelt => ?_⟩
      rw [names_iff, named] at spelt
      cases spelt
    | some setting =>
      have spelt := names_iff.mpr named
      cases setting with
      | address =>
        cases value with
        | string address => exact .inl (.address spelt)
        | _ => exact .inr ⟨_, .addressNotString spelt (by rintro _ ⟨⟩)⟩
      | payloadSize =>
        rcases exists_saysSize_or_sizeFault value with ⟨size, told⟩ | ⟨cause, told⟩
        · exact .inl (.payloadSize spelt told)
        · exact .inr ⟨_, .invalidPayloadSize spelt told⟩
  | _ => exact .inr ⟨_, .keyNotString (by rintro _ ⟨⟩)⟩

/-- Of some entries all set something, or a first one has a fault. -/
theorem forall_valid_or_offends (list : List (Yaml × Yaml)) :
    (∀ entry ∈ list, ValidEntry entry) ∨ ∃ earlier entry later fault,
      list = earlier ++ entry :: later ∧ (∀ entry ∈ earlier, ValidEntry entry) ∧
        Offends entry fault := by
  induction list with
  | nil => exact .inl (by simp)
  | cons first list ih =>
    rcases valid_or_offends first with valid | ⟨fault, offends⟩
    · rcases ih with rest | ⟨earlier, entry, later, fault, rfl, checked, offends⟩
      · exact .inl (List.forall_mem_cons.mpr ⟨valid, rest⟩)
      · have checkedAll := List.forall_mem_cons.mpr ⟨valid, checked⟩
        exact .inr ⟨first :: earlier, entry, later, fault, rfl, checkedAll, offends⟩
    · exact .inr ⟨[], first, list, fault, rfl, by simp, offends⟩

theorem IsLast.concat {setting : Setting} {list : List (Yaml × Yaml)} {entry added : Yaml × Yaml}
    (last : IsLast setting list entry) (other : ¬Names setting added.1) :
    IsLast setting (list ++ [added]) entry := by
  obtain ⟨named, earlier, later, rfl, unnamed⟩ := last
  refine ⟨named, earlier, later ++ [added], by simp, ?_⟩
  exact List.forall_mem_append.mpr ⟨unnamed, List.forall_mem_singleton.mpr other⟩

theorem isLast_concat {setting : Setting} {entry : Yaml × Yaml} (named : Names setting entry.1)
    (list : List (Yaml × Yaml)) : IsLast setting (list ++ [entry]) entry :=
  ⟨named, list, [], by simp, by simp⟩

/-- What was read of some entries: the value of the last one of each setting. -/
structure Reads (list : List (Yaml × Yaml)) (entries : Entries) : Prop where
  address : (entries.address = none ∧ ∀ entry ∈ list, ¬Names .address entry.1) ∨
    ∃ key address, entries.address = some address ∧ IsLast .address list (key, .string address)
  payloadSize : (entries.payloadSize = 0 ∧ ∀ entry ∈ list, ¬Names .payloadSize entry.1) ∨
    ∃ key value, IsLast .payloadSize list (key, value) ∧ SaysSize value entries.payloadSize

theorem Reads.exists_addEntry {list : List (Yaml × Yaml)} {entries : Entries} {entry : Yaml × Yaml}
    (reads : Reads list entries) (valid : ValidEntry entry) :
    ∃ next, addEntry entries entry = .ok next ∧ Reads (list ++ [entry]) next := by
  cases valid with
  | address named =>
    have other : ¬Names .payloadSize _ := fun namedToo => by cases named.unique namedToo
    refine ⟨_, addEntry_address named entries _, .inr ⟨_, _, rfl, isLast_concat named list⟩, ?_⟩
    rcases reads.payloadSize with ⟨zero, unnamed⟩ | ⟨key, value, last, told⟩
    · exact .inl ⟨zero, List.forall_mem_append.mpr ⟨unnamed, List.forall_mem_singleton.mpr other⟩⟩
    · exact .inr ⟨key, value, last.concat other, told⟩
  | payloadSize named told =>
    have other : ¬Names .address _ := fun namedToo => by cases named.unique namedToo
    refine ⟨_, addEntry_payloadSize named told entries, ?_,
      .inr ⟨_, _, isLast_concat named list, told⟩⟩
    rcases reads.address with ⟨empty, unnamed⟩ | ⟨key, address, same, last⟩
    · exact .inl ⟨empty, List.forall_mem_append.mpr ⟨unnamed, List.forall_mem_singleton.mpr other⟩⟩
    · exact .inr ⟨key, address, same, last.concat other⟩

theorem Reads.exists_foldlM {earlier list : List (Yaml × Yaml)} {entries : Entries}
    (reads : Reads earlier entries) (valid : ∀ entry ∈ list, ValidEntry entry) :
    ∃ final, list.foldlM addEntry entries = .ok final ∧ Reads (earlier ++ list) final := by
  induction list generalizing earlier entries with
  | nil => exact ⟨entries, rfl, by rwa [List.append_nil]⟩
  | cons entry list ih =>
    rw [List.forall_mem_cons] at valid
    obtain ⟨next, taken, readsNext⟩ := reads.exists_addEntry valid.1
    rw [List.foldlM_cons, taken, List.append_cons]
    exact ih readsNext valid.2

/-- Entries that all set something are read to their end. -/
theorem exists_reads {list : List (Yaml × Yaml)} (valid : ∀ entry ∈ list, ValidEntry entry) :
    ∃ final, list.foldlM addEntry ⟨none, 0⟩ = .ok final ∧ Reads list final := by
  have start : Reads [] ⟨none, 0⟩ := ⟨.inl ⟨rfl, by simp⟩, .inl ⟨rfl, by simp⟩⟩
  exact start.exists_foldlM valid

/-- A map whose entries all set something, by whether an address is among them. -/
theorem ofYaml_hash_of_valid {list : List (Yaml × Yaml)}
    (valid : ∀ entry ∈ list, ValidEntry entry) :
    (∃ config, Sets (.hash list) config ∧ ofYaml (.hash list) = .ok config ∧
      ∃ entry ∈ list, Names .address entry.1) ∨
    (ofYaml (.hash list) = .error .noAddress ∧ ∀ entry ∈ list, ¬Names .address entry.1) := by
  obtain ⟨⟨address?, payloadSize⟩, read, reads⟩ := exists_reads valid
  rcases reads.address with ⟨empty, unnamed⟩ | ⟨key, address, same, last⟩
  · cases empty
    have refused : ofYaml (.hash list) = .error .noAddress := by
      rw [ofYaml, read]
      rfl
    exact .inr ⟨refused, unnamed⟩
  · cases same
    have taken : ofYaml (.hash list) = .ok ((create address).setPayloadSize payloadSize) := by
      rw [ofYaml, read]
      rfl
    refine .inl ⟨_, ?_, taken, ?_⟩
    · apply Sets.hash last
      change SetsSize list (if payloadSize = 0 then 512 else payloadSize)
      rcases reads.payloadSize with ⟨zero, unnamed⟩ | ⟨key, value, last, told⟩
      · rw [if_pos zero]
        exact .none unnamed
      · split
        next zero => exact .zero last (zero ▸ told)
        next positive => exact .some last told positive
    · obtain ⟨named, earlier, later, rfl, -⟩ := last
      exact ⟨(key, .string address), by simp, named⟩

theorem TreeFault.ofYaml_eq {tree : Yaml} {fault : ConfigError} (told : TreeFault tree fault) :
    ofYaml tree = .error fault := by
  cases told with
  | @entry earlier later entry _ valid offends =>
    obtain ⟨next, taken, -⟩ := exists_reads valid
    have read : (earlier ++ entry :: later).foldlM addEntry ⟨none, 0⟩ = .error fault := by
      rw [List.foldlM_append, taken]
      change (entry :: later).foldlM addEntry next = _
      rw [List.foldlM_cons, offends.addEntry_eq]
      rfl
    rw [ofYaml, read]
    rfl
  | noAddress valid unnamed =>
    rcases ofYaml_hash_of_valid valid with ⟨_, -, -, entry, member, named⟩ | ⟨refused, -⟩
    · exact absurd named (unnamed entry member)
    · exact refused
  | wrongType notText notHash =>
    cases tree with
    | string text => exact absurd rfl (notText text)
    | hash entries => exact absurd rfl (notHash entries)
    | _ => rfl

/-- A tree sets something or has a fault. -/
theorem sets_or_treeFault (tree : Yaml) :
    (ValidTree tree ∧ ∃ config, Sets tree config ∧ ofYaml tree = .ok config) ∨
      ∃ fault, TreeFault tree fault := by
  cases tree with
  | string address => exact .inl ⟨.string address, _, .string address, rfl⟩
  | hash list =>
    rcases forall_valid_or_offends list with
      valid | ⟨earlier, entry, later, fault, rfl, valid, offends⟩
    · rcases ofYaml_hash_of_valid valid with ⟨config, sets, taken, named⟩ | ⟨-, unnamed⟩
      · exact .inl ⟨.hash valid named, config, sets, taken⟩
      · exact .inr ⟨_, .noAddress valid unnamed⟩
    · exact .inr ⟨fault, .entry valid offends⟩
  | _ => exact .inr ⟨_, .wrongType (by rintro _ ⟨⟩) (by rintro _ ⟨⟩)⟩

theorem Sets.payloadSize_ne_zero {tree : Yaml} {config : ClientConfig} (sets : Sets tree config) :
    config.payloadSize ≠ 0 := by
  have default : (512 : Nat) ≠ 0 := by decide
  cases sets with
  | string => exact default
  | hash _ size =>
    cases size with
    | none | zero => exact default
    | some _ _ positive => exact positive

theorem validTree_hash_iff {list : List (Yaml × Yaml)} : ValidTree (.hash list) ↔
    (∀ entry ∈ list, ValidEntry entry) ∧ ∃ entry ∈ list, Names .address entry.1 := by
  constructor
  · rintro (_ | ⟨valid, named⟩)
    exact ⟨valid, named⟩
  · rintro ⟨valid, named⟩
    exact .hash valid named

theorem exists_ofYaml_eq_ok_iff (tree : Yaml) :
    (∃ config, ofYaml tree = .ok config) ↔ ValidTree tree := by
  constructor
  · rintro ⟨config, taken⟩
    rcases sets_or_treeFault tree with ⟨valid, -⟩ | ⟨fault, told⟩
    · exact valid
    · cases told.ofYaml_eq.symm.trans taken
  · intro valid
    cases valid with
    | string address => exact ⟨_, rfl⟩
    | hash valid named =>
      obtain ⟨entry, member, named⟩ := named
      rcases ofYaml_hash_of_valid valid with ⟨config, -, taken, -⟩ | ⟨-, unnamed⟩
      · exact ⟨config, taken⟩
      · exact absurd named (unnamed entry member)

/-- Settings come of exactly the valid trees, whatever the order of their entries, and are those
that the tree sets last. Of all other trees the first fault is reported. -/
theorem ofYaml_accepts_valid (tree : Yaml) :
    ((∃ config, ofYaml tree = .ok config) ↔ ValidTree tree) ∧
    (∀ config, ofYaml tree = .ok config → Sets tree config ∧ config.payloadSize ≠ 0) ∧
    (∀ fault, ofYaml tree = .error fault ↔ TreeFault tree fault) ∧
    (∀ entries others, tree = .hash entries → entries.Perm others →
      ((∃ config, ofYaml tree = .ok config) ↔ ∃ config, ofYaml (.hash others) = .ok config)) := by
  refine ⟨exists_ofYaml_eq_ok_iff tree, ?_, ?_, ?_⟩
  · intro config taken
    rcases sets_or_treeFault tree with ⟨-, other, sets, same⟩ | ⟨fault, told⟩
    · cases same.symm.trans taken
      exact ⟨sets, sets.payloadSize_ne_zero⟩
    · cases told.ofYaml_eq.symm.trans taken
  · intro fault
    constructor
    · intro refused
      rcases sets_or_treeFault tree with ⟨-, config, -, taken⟩ | ⟨other, told⟩
      · cases taken.symm.trans refused
      · cases told.ofYaml_eq.symm.trans refused
        exact told
    · exact fun told => told.ofYaml_eq
  · rintro entries others rfl perm
    rw [exists_ofYaml_eq_ok_iff, exists_ofYaml_eq_ok_iff, validTree_hash_iff, validTree_hash_iff]
    simp only [perm.mem_iff]

end SeriesWire.ClientConfig
