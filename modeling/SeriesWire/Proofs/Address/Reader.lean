import SeriesWire.Address.Grammar

/-! How far readers look. A reader takes characters of its kind from the front and sees nothing
behind them, so that a character of another kind is to it like the end of the text. What it reads
from the front of a text is then what it makes of that part alone. -/
namespace SeriesWire.Address

variable {α β : Type} {kind other : Char → Prop}

/-- The reader takes characters of the kind only, and what follows does not matter to it unless
that begins with one of them. -/
structure Takes (kind : Char → Prop) (reader : Reader α) : Prop where
  taken {cs rest : List Char} {x : α} : reader cs = some (x, rest) →
    ∃ text, cs = text ++ rest ∧ ∀ c ∈ text, kind c
  stops {rest : List Char} (cs : List Char) : (∀ c ∈ rest.head?, ¬kind c) →
    reader (cs ++ rest) = (reader cs).map fun (x, left) => (x, left ++ rest)

theorem whole_eq_some_iff {reader : Reader α} {cs : List Char} {x : α} :
    whole reader cs = some x ↔ reader cs = some (x, []) := by
  unfold whole
  split
  next read => simp [read]
  next partly =>
    constructor
    · rintro ⟨⟩
    · exact fun read => absurd read (partly x)

theorem symbol_eq_some_iff {c : Char} {cs rest : List Char} :
    symbol c cs = some rest ↔ cs = c :: rest := by
  cases cs with
  | nil => simp [symbol]
  | cons x cs =>
    by_cases same : x = c
    · simp [symbol, same]
    · simp [symbol, same]

theorem symbol_eq_none {c : Char} {cs : List Char} (other : c ∉ cs.head?) : symbol c cs = none := by
  refine Option.eq_none_iff_forall_ne_some.mpr fun behind begins => other ?_
  rw [symbol_eq_some_iff.mp begins]
  rfl

theorem symbol_bind_eq_some_iff {c : Char} {reader : Reader α} {cs : List Char}
    {read : α × List Char} : (symbol c cs >>= reader) = some read ↔
      ∃ behind, cs = c :: behind ∧ reader behind = some read := by
  simp only [Option.bind_eq_bind, Option.bind_eq_some_iff, symbol_eq_some_iff]

namespace Takes

/-- What is read from the front of a text is what a part of it is as a whole, where the rest
begins with another kind. -/
theorem eq_some_iff {reader : Reader α} (takes : Takes kind reader) {cs rest : List Char} {x : α}
    (ends : ∀ c ∈ rest.head?, ¬kind c) :
    reader cs = some (x, rest) ↔ ∃ text, cs = text ++ rest ∧ whole reader text = some x := by
  constructor
  · intro read
    obtain ⟨text, rfl, -⟩ := takes.taken read
    rw [takes.stops text ends, Option.map_eq_some_iff] at read
    obtain ⟨⟨x, left⟩, read, same⟩ := read
    obtain ⟨rfl, nothing⟩ := Prod.mk.inj same
    rw [List.append_left_eq_self.mp nothing] at read
    exact ⟨text, rfl, whole_eq_some_iff.mpr read⟩
  · rintro ⟨text, rfl, read⟩
    rw [takes.stops text ends, whole_eq_some_iff.mp read]
    rfl

theorem of_whole {reader : Reader α} (takes : Takes kind reader) {text : List Char} {x : α}
    (read : whole reader text = some x) : ∀ c ∈ text, kind c := by
  obtain ⟨text, rfl, kinds⟩ := takes.taken (whole_eq_some_iff.mp read)
  rwa [List.append_nil]

theorem mono {reader : Reader α} (takes : Takes kind reader) (wider : ∀ c, kind c → other c) :
    Takes other reader where
  taken read := by
    obtain ⟨text, rfl, kinds⟩ := takes.taken read
    exact ⟨text, rfl, fun c member => wider c (kinds c member)⟩
  stops cs ends := takes.stops cs fun c first same => ends c first (wider c same)

/-- Nothing is taken for a value that is there already, or not to be had. -/
theorem ofOption (x? : Option α) : Takes kind fun cs => x? >>= fun x => some (x, cs) where
  taken read := by
    obtain ⟨x, -, same⟩ := Option.bind_eq_some_iff.mp read
    exact ⟨[], (Prod.mk.inj (Option.some.inj same)).2, by simp⟩
  stops cs _ := by
    cases x? with
    | none => rfl
    | some x => rfl

theorem bind {reader : Reader α} {next : α → Reader β} (first : Takes kind reader)
    (second : ∀ x, Takes kind (next x)) :
    Takes kind fun cs => reader cs >>= fun (x, rest) => next x rest where
  taken read := by
    obtain ⟨⟨x, middle⟩, one, two⟩ := Option.bind_eq_some_iff.mp read
    obtain ⟨text, rfl, kinds⟩ := first.taken one
    obtain ⟨more, rfl, kindsToo⟩ := (second x).taken two
    refine ⟨text ++ more, (List.append_assoc ..).symm, fun c member => ?_⟩
    rcases List.mem_append.mp member with early | late
    · exact kinds c early
    · exact kindsToo c late
  stops cs ends := by
    simp only [first.stops cs ends]
    cases reader cs with
    | none => rfl
    | some read => exact (second read.1).stops read.2 ends

/-- The second reader has a turn where the first does not apply. -/
theorem or {reader another : Reader α} (takes : Takes kind reader) (takesToo : Takes kind another) :
    Takes kind fun cs => (reader cs).or (another cs) where
  taken read := by
    rcases Option.or_eq_some_iff.mp read with one | ⟨-, two⟩
    · exact takes.taken one
    · exact takesToo.taken two
  stops cs ends := by
    simp only [takes.stops cs ends, takesToo.stops cs ends]
    cases reader cs with
    | none => rfl
    | some read => rfl

/-- A character of the kind, and then what the reader takes. -/
theorem after {c : Char} {reader : Reader α} (same : kind c) (takes : Takes kind reader) :
    Takes kind fun cs => symbol c cs >>= reader where
  taken read := by
    obtain ⟨behind, rfl, further⟩ := symbol_bind_eq_some_iff.mp read
    obtain ⟨text, rfl, kinds⟩ := takes.taken further
    exact ⟨c :: text, rfl, List.forall_mem_cons.mpr ⟨same, kinds⟩⟩
  stops {rest} cs ends := by
    cases cs with
    | nil =>
      have unread : symbol c rest = none := symbol_eq_none fun first => ends c first same
      simp only [List.nil_append, unread]
      rfl
    | cons x cs =>
      by_cases equal : x = c
      · simpa [symbol, equal] using takes.stops cs ends
      · simp [symbol, equal]

end Takes

section Digits

variable {base : Nat}

theorem digits_append {rest : List Char}
    (ends : ∀ c ∈ rest.head?, ¬Text.digitValue c < base) (cs : List Char) :
    digits base (cs ++ rest) = ((digits base cs).1, (digits base cs).2 ++ rest) := by
  unfold digits
  induction cs with
  | nil =>
    cases rest with
    | nil => rfl
    | cons c rest => simp [ends c rfl]
  | cons c cs ih =>
    rw [Prod.mk.injEq] at ih
    by_cases digit : Text.digitValue c < base
    · simp [digit, ih.1, ih.2]
    · simp [digit]

/-- The reader takes the digits in front, and what it makes of them is `value?`. -/
def ReadsDigits (base : Nat) (value? : List Char → Option α) (reader : Reader α) : Prop :=
  ∀ cs, reader cs = (value? (digits base cs).1).map (·, (digits base cs).2)

theorem ReadsDigits.takes {reader : Reader α} {value? : List Char → Option α}
    (reads : ReadsDigits base value? reader) : Takes (Text.digitValue · < base) reader where
  taken {cs rest x} read := by
    rw [reads, Option.map_eq_some_iff] at read
    obtain ⟨x, -, same⟩ := read
    obtain ⟨-, rfl⟩ := Prod.mk.inj same
    refine ⟨(digits base cs).1, List.takeWhile_append_dropWhile.symm, fun c member => ?_⟩
    exact of_decide_eq_true (List.all_eq_true.mp List.all_takeWhile c member)
  stops cs ends := by
    simp only [reads _, digits_append ends, Option.map_map]
    rfl

theorem readsDigits_decimal (most : Nat) : ReadsDigits 10
    (fun ds => if ds = [] then none else Text.digitsWithin? 10 most ds) (decimal most) := by
  intro cs
  simp only [decimal]
  split <;> rfl

theorem readsDigits_octet : ReadsDigits 10
    (fun ds => if ds ≠ [] ∧ ds.length ≤ 3 ∧ (ds.head? = some '0' → ds.length = 1) then
      (Text.digitsWithin? 10 255 ds).map UInt8.ofNat else none) octet := by
  intro cs
  simp only [octet]
  split
  · rw [Option.map_map]; rfl
  · rfl

theorem readsDigits_group : ReadsDigits 16
    (fun ds => if ds ≠ [] ∧ ds.length ≤ 4 then
      (Text.digitsWithin? 16 0xFFFF ds).map UInt16.ofNat else none) group := by
  intro cs
  simp only [group]
  split
  · rw [Option.map_map]; rfl
  · rfl

end Digits

theorem takes_ipv4 : Takes (fun c => Text.digitValue c < 10 ∨ c = '.') ipv4 := by
  have first : Takes (fun c => Text.digitValue c < 10 ∨ c = '.') octet :=
    readsDigits_octet.takes.mono fun _ => .inl
  have next : Takes (fun c => Text.digitValue c < 10 ∨ c = '.')
      fun cs => symbol '.' cs >>= octet := first.after (.inr rfl)
  exact first.bind fun a => next.bind fun b => next.bind fun c => next.bind fun d =>
    .ofOption (some (Ipv4Address.mk a b c d))

/-- What texts of addresses are made of. -/
def InAddress (c : Char) : Prop := Text.digitValue c < 16 ∨ c = '.' ∨ c = ':'

instance : DecidablePred InAddress :=
  fun c => inferInstanceAs (Decidable (Text.digitValue c < 16 ∨ c = '.' ∨ c = ':'))

section Ipv6

variable {isFirst : Bool}

theorem Takes.separated {reader : Reader α} (takes : Takes InAddress reader) :
    Takes InAddress fun cs => separator isFirst cs >>= reader := by
  cases isFirst with
  | true => exact takes
  | false => exact takes.after (.inr (.inr rfl))

/-- The groups that four octets stand for. -/
def groupsOfOctets (ip : Ipv4Address) : List UInt16 :=
  [ip.a.toUInt16 <<< 8 ||| ip.b.toUInt16, ip.c.toUInt16 <<< 8 ||| ip.d.toUInt16]

/-- Where there is room for groups, the octets come first, then a group, then nothing. -/
theorem groups_succ (room : Nat) (cs : List Char) :
    some (groups isFirst (room + 1) cs) =
      (((if room = 0 then none else separator isFirst cs >>= ipv4) >>= fun (ip, rest) =>
        some ((groupsOfOctets ip, true), rest)).or
      ((separator isFirst cs >>= group) >>= fun (g, rest) =>
        some (groups false room rest) >>= fun (more, rest) => some ((g :: more.1, more.2), rest))).or
      (some (([], false), cs)) := by
  rw [groups]
  cases (if room = 0 then none else separator isFirst cs >>= ipv4) with
  | some read => rfl
  | none =>
    cases separator isFirst cs >>= group with
    | some read => rfl
    | none => rfl

theorem takes_groups (room : Nat) : Takes InAddress fun cs => some (groups isFirst room cs) := by
  induction room generalizing isFirst with
  | zero => exact .ofOption (some ([], false))
  | succ room ih =>
    have decimal (c : Char) : Text.digitValue c < 10 ∨ c = '.' → InAddress c := by
      rintro (digit | point)
      · exact .inl (by omega)
      · exact .inr (.inl point)
    have octets : Takes InAddress
        fun cs => if room = 0 then none else separator isFirst cs >>= ipv4 := by
      by_cases full : room = 0
      · simp only [if_pos full]
        exact .ofOption none
      · simp only [if_neg full]
        exact (takes_ipv4.mono decimal).separated
    have one : Takes InAddress fun cs => separator isFirst cs >>= group :=
      (readsDigits_group.takes.mono fun _ => .inl).separated
    have further (g : UInt16) : Takes InAddress fun cs =>
        some (groups false room cs) >>= fun (more, rest) => some ((g :: more.1, more.2), rest) :=
      ih.bind fun more => .ofOption (some (g :: more.1, more.2))
    rw [funext (groups_succ room)]
    exact ((octets.bind fun ip => .ofOption (some (groupsOfOctets ip, true))).or (one.bind further)).or
      (.ofOption (some ([], false)))

/-- What the groups at the front of an address leave to read. -/
def ipv6Behind (front : List UInt16 × Bool) : Reader Ipv6Address :=
  if front.1.length = 8 then fun cs => Ipv6Address.ofGroups? front.1 >>= fun ip => some (ip, cs)
  else if front.2 then fun _ => none
  else fun cs => symbol ':' cs >>= fun cs => symbol ':' cs >>= fun cs =>
    some (groups true (7 - front.1.length) cs) >>= fun (back, cs) =>
      Ipv6Address.ofGroups? (front.1 ++
        List.replicate (8 - front.1.length - back.1.length) 0 ++ back.1) >>= fun ip => some (ip, cs)

theorem ipv6_eq (cs : List Char) :
    ipv6 cs = some (groups true 8 cs) >>= fun (front, rest) => ipv6Behind front rest := by
  simp only [ipv6, ipv6Behind, Option.bind_eq_bind, Option.bind_some, Option.bind_assoc]
  split
  · rfl
  · split
    · rfl
    · rfl

theorem takes_ipv6 : Takes InAddress ipv6 := by
  have colon : InAddress ':' := .inr (.inr rfl)
  rw [funext ipv6_eq]
  refine (takes_groups 8).bind fun front => ?_
  unfold ipv6Behind
  split
  · exact .ofOption _
  · split
    · exact .ofOption none
    · exact .after colon (.after colon ((takes_groups _).bind fun back => .ofOption
        (Ipv6Address.ofGroups? (front.1 ++
          List.replicate (8 - front.1.length - back.1.length) 0 ++ back.1))))

end Ipv6

end SeriesWire.Address
