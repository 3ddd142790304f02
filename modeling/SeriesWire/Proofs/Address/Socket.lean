import Mathlib.Data.List.TakeWhile
import SeriesWire.Proofs.Address.Reader
import SeriesWire.Proofs.Decimal.Reading

/-! The texts of sockets. There are three forms of them, `a.b.c.d:port`, `[ip]:port` and
`[ip%scope]:port`. Zeros may lead the numbers of ports and scopes, but not those of octets. -/
namespace SeriesWire.Address

open Decimal (Denotes natural)

variable {cs rest text : List Char} {ip : Ipv4Address}

/-- The text of a socket, in one of the three forms. -/
inductive SocketText : List Char → SocketAddress → Prop where
  | v4 {ip : Ipv4Address} {port : UInt16} {number : List Char} : Denotes number port.toNat →
      SocketText (ip.text ++ ':' :: number) (.v4 ip port)
  | v6 {ip : Ipv6Address} {port : UInt16} {text number : List Char} : ipv6? text = some ip →
      Denotes number port.toNat →
      SocketText ('[' :: (text ++ ']' :: ':' :: number)) (.v6 ip port 0 0)
  | zoned {ip : Ipv6Address} {port : UInt16} {scope : UInt32} {text zone number : List Char} :
      ipv6? text = some ip → Denotes zone scope.toNat → Denotes number port.toNat →
      SocketText ('[' :: (text ++ '%' :: (zone ++ ']' :: ':' :: number))) (.v6 ip port 0 scope)

/-- The text does not begin with a digit. -/
def DigitsEnd (rest : List Char) : Prop := ∀ c ∈ rest.head?, ¬Text.digitValue c < 10

theorem digitsEnd_nil : DigitsEnd [] := by simp [DigitsEnd]

theorem digitsEnd_cons {c : Char} (other : c.isDigit = false) : DigitsEnd (c :: rest) := by
  rintro _ ⟨⟩
  simp [Text.digitValue_lt_ten_iff, other]

theorem digits_of_isDigit (all : ∀ c ∈ text, c.isDigit) : digits 10 text = (text, []) := by
  have small : ∀ c ∈ text, decide (Text.digitValue c < 10) = true := fun c member =>
    decide_eq_true (Text.digitValue_lt_ten_iff.mpr (all c member))
  rw [digits, List.takeWhile_eq_self_iff.mpr small, List.dropWhile_eq_nil_iff.mpr small]

theorem ReadsDigits.whole_eq_some_iff {α : Type} {reader : Reader α}
    {value? : List Char → Option α} (reads : ReadsDigits 10 value? reader) {x : α} :
    whole reader text = some x ↔ (∀ c ∈ text, c.isDigit) ∧ value? text = some x := by
  have read (all : ∀ c ∈ text, c.isDigit) :
      reader text = some (x, []) ↔ value? text = some x := by
    rw [reads, digits_of_isDigit all]
    simp
  rw [Address.whole_eq_some_iff]
  constructor
  · intro whole
    have all : ∀ c ∈ text, c.isDigit := fun c member => Text.digitValue_lt_ten_iff.mp
      (reads.takes.of_whole (Address.whole_eq_some_iff.mpr whole) c member)
    exact ⟨all, (read all).mp whole⟩
  · rintro ⟨all, value⟩
    exact (read all).mpr value

theorem whole_decimal_iff {most n : Nat} :
    whole (decimal most) text = some n ↔ Denotes text n ∧ n ≤ most := by
  rw [(readsDigits_decimal most).whole_eq_some_iff, Option.ite_none_left_eq_some]
  constructor
  · rintro ⟨all, nonempty, within⟩
    have denotes : Denotes text _ := ⟨nonempty, all, rfl⟩
    obtain ⟨rfl, le⟩ := denotes.digitsWithin?_eq_some_iff.mp within
    exact ⟨denotes, le⟩
  · rintro ⟨denotes, le⟩
    exact ⟨denotes.digits, denotes.nonempty, denotes.digitsWithin?_eq_some_iff.mpr ⟨rfl, le⟩⟩

/-- An octet has one text, as no zero may lead it. -/
theorem whole_octet_iff {value : UInt8} :
    whole octet text = some value ↔ text = natural value.toNat := by
  rw [readsDigits_octet.whole_eq_some_iff, Option.ite_none_right_eq_some]
  constructor
  · rintro ⟨all, ⟨nonempty, -, short⟩, number⟩
    obtain ⟨n, within, rfl⟩ := Option.map_eq_some_iff.mp number
    have denotes : Denotes text _ := ⟨nonempty, all, rfl⟩
    obtain ⟨rfl, le⟩ := denotes.digitsWithin?_eq_some_iff.mp within
    rw [UInt8.toNat_ofNat_of_lt' (Nat.lt_succ_of_le le)]
    exact denotes.eq_natural short
  · rintro rfl
    have denotes := Decimal.denotes_natural value.toNat
    have le : value.toNat ≤ 255 := Nat.le_of_lt_succ value.toNat_lt
    have length : (natural value.toNat).length ≤ 3 :=
      (Nat.length_toDigits_le_iff (by decide) (by decide)).mpr (by omega)
    have within := denotes.digitsWithin?_eq_some_iff.mpr ⟨rfl, le⟩
    refine ⟨denotes.digits, ⟨denotes.nonempty, length, Decimal.length_natural_of_head?⟩, ?_⟩
    rw [within, Option.map_some, UInt8.ofNat_toNat]

theorem decimal_eq_some_iff {most n : Nat} (ends : DigitsEnd rest) :
    decimal most cs = some (n, rest) ↔
      ∃ number, cs = number ++ rest ∧ Denotes number n ∧ n ≤ most := by
  simp only [(readsDigits_decimal most).takes.eq_some_iff ends, whole_decimal_iff]

theorem octet_eq_some_iff {value : UInt8} (ends : DigitsEnd rest) :
    octet cs = some (value, rest) ↔ cs = natural value.toNat ++ rest := by
  simp only [readsDigits_octet.takes.eq_some_iff ends, whole_octet_iff, exists_eq_right]

theorem ipv4_eq_some_iff (ends : DigitsEnd rest) :
    ipv4 cs = some (ip, rest) ↔ cs = ip.text ++ rest := by
  have point (behind : List Char) : DigitsEnd ('.' :: behind) := digitsEnd_cons rfl
  have text : ip.text ++ rest = natural ip.a.toNat ++ '.' :: (natural ip.b.toNat ++ '.' ::
      (natural ip.c.toNat ++ '.' :: (natural ip.d.toNat ++ rest))) := by
    simp [Ipv4Address.text, List.intercalate]
  rw [text]
  constructor
  · intro read
    obtain ⟨⟨a, _⟩, one, read⟩ := Option.bind_eq_some_iff.mp read
    obtain ⟨⟨b, _⟩, two, read⟩ := Option.bind_eq_some_iff.mp read
    obtain ⟨⟨c, _⟩, three, read⟩ := Option.bind_eq_some_iff.mp read
    obtain ⟨⟨d, _⟩, four, read⟩ := Option.bind_eq_some_iff.mp read
    obtain ⟨rfl, rfl⟩ := Prod.mk.inj (Option.some.inj read)
    obtain ⟨_, rfl, two⟩ := symbol_bind_eq_some_iff.mp two
    obtain ⟨_, rfl, three⟩ := symbol_bind_eq_some_iff.mp three
    obtain ⟨_, rfl, four⟩ := symbol_bind_eq_some_iff.mp four
    rw [(octet_eq_some_iff (point _)).mp one, (octet_eq_some_iff (point _)).mp two,
      (octet_eq_some_iff (point _)).mp three, (octet_eq_some_iff ends).mp four]
  · rintro rfl
    refine Option.bind_eq_some_iff.mpr ⟨(ip.a, _), (octet_eq_some_iff (point _)).mpr rfl, ?_⟩
    refine Option.bind_eq_some_iff.mpr ⟨(ip.b, _), symbol_bind_eq_some_iff.mpr
      ⟨_, rfl, (octet_eq_some_iff (point _)).mpr rfl⟩, ?_⟩
    refine Option.bind_eq_some_iff.mpr ⟨(ip.c, _), symbol_bind_eq_some_iff.mpr
      ⟨_, rfl, (octet_eq_some_iff (point _)).mpr rfl⟩, ?_⟩
    exact Option.bind_eq_some_iff.mpr ⟨(ip.d, rest), symbol_bind_eq_some_iff.mpr
      ⟨_, rfl, (octet_eq_some_iff ends).mpr rfl⟩, rfl⟩

theorem port_eq_some_iff {number : UInt16} :
    port cs = some (number, []) ↔ ∃ text, cs = ':' :: text ∧ Denotes text number.toNat := by
  constructor
  · intro read
    obtain ⟨⟨n, _⟩, read, same⟩ := Option.bind_eq_some_iff.mp read
    obtain ⟨rfl, rfl⟩ := Prod.mk.inj (Option.some.inj same)
    obtain ⟨behind, rfl, read⟩ := symbol_bind_eq_some_iff.mp read
    obtain ⟨text, rfl, denotes, le⟩ := (decimal_eq_some_iff digitsEnd_nil).mp read
    rw [List.append_nil, UInt16.toNat_ofNat_of_lt' (Nat.lt_succ_of_le le)]
    exact ⟨text, rfl, denotes⟩
  · rintro ⟨text, rfl, denotes⟩
    have read : decimal 65535 text = some (number.toNat, []) :=
      (decimal_eq_some_iff digitsEnd_nil).mpr
        ⟨text, by rw [List.append_nil], denotes, Nat.le_of_lt_succ number.toNat_lt⟩
    refine Option.bind_eq_some_iff.mpr ⟨_, symbol_bind_eq_some_iff.mpr ⟨text, rfl, read⟩, ?_⟩
    simp only [UInt16.ofNat_toNat]

/-- The scope in front of the bracket that closes an address. -/
theorem scope_eq_iff {n : Nat} : scope cs = (n, ']' :: rest) ↔
    (n = 0 ∧ cs = ']' :: rest) ∨
      ∃ zone, cs = '%' :: (zone ++ ']' :: rest) ∧ Denotes zone n ∧ n ≤ 4294967295 := by
  have ends : DigitsEnd (']' :: rest) := digitsEnd_cons rfl
  unfold scope
  cases read : symbol '%' cs >>= decimal 4294967295 with
  | some value =>
    obtain ⟨behind, rfl, number⟩ := symbol_bind_eq_some_iff.mp read
    rw [Option.getD_some]
    constructor
    · rintro rfl
      obtain ⟨zone, rfl, denotes⟩ := (decimal_eq_some_iff ends).mp number
      exact .inr ⟨zone, rfl, denotes⟩
    · rintro (⟨-, other⟩ | ⟨zone, same, denotes⟩)
      · cases other
      · have same := (decimal_eq_some_iff ends).mpr ⟨zone, (List.cons.inj same).2, denotes⟩
        exact Option.some.inj (number.symm.trans same)
  | none =>
    rw [Option.getD_none]
    constructor
    · rintro ⟨⟩
      exact .inl ⟨rfl, rfl⟩
    · rintro (⟨rfl, rfl⟩ | ⟨zone, rfl, denotes⟩)
      · rfl
      · have number := (decimal_eq_some_iff ends).mpr ⟨zone, rfl, denotes⟩
        cases read.symm.trans (symbol_bind_eq_some_iff.mpr ⟨_, rfl, number⟩)

theorem socketV4_eq_some_iff {socket : SocketAddress} : socketV4 cs = some (socket, []) ↔
    ∃ (ip : Ipv4Address) (number : UInt16) (text : List Char), cs = ip.text ++ ':' :: text ∧
      Denotes text number.toNat ∧ socket = .v4 ip number := by
  have colon (text : List Char) : DigitsEnd (':' :: text) := digitsEnd_cons rfl
  constructor
  · intro read
    obtain ⟨⟨ip, _⟩, one, read⟩ := Option.bind_eq_some_iff.mp read
    obtain ⟨⟨number, _⟩, two, read⟩ := Option.bind_eq_some_iff.mp read
    obtain ⟨rfl, rfl⟩ := Prod.mk.inj (Option.some.inj read)
    obtain ⟨text, rfl, denotes⟩ := port_eq_some_iff.mp two
    exact ⟨ip, number, text, (ipv4_eq_some_iff (colon text)).mp one, denotes, rfl⟩
  · rintro ⟨ip, number, text, rfl, denotes, rfl⟩
    refine Option.bind_eq_some_iff.mpr ⟨(ip, _), (ipv4_eq_some_iff (colon text)).mpr rfl, ?_⟩
    exact Option.bind_eq_some_iff.mpr
      ⟨(number, []), port_eq_some_iff.mpr ⟨text, rfl, denotes⟩, rfl⟩

/-- What follows an address in brackets. -/
theorem ipv6_eq_some_iff {ip : Ipv6Address} {c : Char} (other : ¬InAddress c) :
    ipv6 cs = some (ip, c :: rest) ↔ ∃ text, cs = text ++ c :: rest ∧ ipv6? text = some ip := by
  refine takes_ipv6.eq_some_iff ?_
  rintro _ ⟨⟩
  exact other

theorem ipv6_append {ip : Ipv6Address} {c : Char} (whole : ipv6? text = some ip)
    (other : ¬InAddress c) (rest : List Char) : ipv6 (text ++ c :: rest) = some (ip, c :: rest) :=
  (ipv6_eq_some_iff other).mpr ⟨text, rfl, whole⟩

theorem socketV6_eq_some_iff {socket : SocketAddress} : socketV6 cs = some (socket, []) ↔
    ∃ (inner behind text : List Char) (ip : Ipv6Address) (n : Nat) (number : UInt16),
      cs = '[' :: inner ∧ ipv6 inner = some (ip, behind) ∧
      scope behind = (n, ']' :: ':' :: text) ∧ Denotes text number.toNat ∧
      socket = .v6 ip number 0 (UInt32.ofNat n) := by
  constructor
  · intro read
    obtain ⟨⟨ip, behind⟩, opens, further⟩ := Option.bind_eq_some_iff.mp read
    obtain ⟨inner, rfl, address⟩ := symbol_bind_eq_some_iff.mp opens
    cases zone : scope behind with
    | mk n closed =>
      simp only [zone] at further
      obtain ⟨⟨number, _⟩, closes, last⟩ := Option.bind_eq_some_iff.mp further
      obtain ⟨rfl, rfl⟩ := Prod.mk.inj (Option.some.inj last)
      obtain ⟨_, rfl, closes⟩ := symbol_bind_eq_some_iff.mp closes
      obtain ⟨text, rfl, denotes⟩ := port_eq_some_iff.mp closes
      exact ⟨inner, behind, text, ip, n, number, rfl, address, zone, denotes, rfl⟩
  · rintro ⟨inner, behind, text, ip, n, number, rfl, address, zone, denotes, rfl⟩
    refine Option.bind_eq_some_iff.mpr
      ⟨(ip, behind), symbol_bind_eq_some_iff.mpr ⟨inner, rfl, address⟩, ?_⟩
    simp only [zone]
    exact Option.bind_eq_some_iff.mpr ⟨(number, []), symbol_bind_eq_some_iff.mpr
      ⟨_, rfl, port_eq_some_iff.mpr ⟨text, rfl, denotes⟩⟩, rfl⟩

/-- The reader of sockets takes exactly the three forms. -/
theorem socket?_eq_some_iff {socket : SocketAddress} :
    socket? cs = some socket ↔ SocketText cs socket := by
  have bracket : ¬InAddress ']' := by decide
  have percent : ¬InAddress '%' := by decide
  rw [socket?, whole_eq_some_iff, Option.or_eq_some_iff]
  constructor
  · rintro (first | ⟨-, second⟩)
    · obtain ⟨ip, number, text, rfl, denotes, rfl⟩ := socketV4_eq_some_iff.mp first
      exact .v4 denotes
    · obtain ⟨inner, behind, number, ip, n, port, rfl, address, zone, denotes, rfl⟩ :=
        socketV6_eq_some_iff.mp second
      rcases scope_eq_iff.mp zone with ⟨rfl, rfl⟩ | ⟨zone, rfl, scope, le⟩
      · obtain ⟨text, rfl, whole⟩ := (ipv6_eq_some_iff bracket).mp address
        exact .v6 whole denotes
      · obtain ⟨text, rfl, whole⟩ := (ipv6_eq_some_iff percent).mp address
        rw [← UInt32.toNat_ofNat_of_lt' (Nat.lt_succ_of_le le)] at scope
        exact .zoned whole scope denotes
  · intro told
    cases told with
    | v4 denotes => exact .inl (socketV4_eq_some_iff.mpr ⟨_, _, _, rfl, denotes, rfl⟩)
    | @v6 ip port text number whole denotes =>
      exact .inr ⟨rfl, socketV6_eq_some_iff.mpr
        ⟨_, _, number, ip, 0, port, rfl, ipv6_append whole bracket _, rfl, denotes, rfl⟩⟩
    | @zoned ip port value text zone number whole zoned denotes =>
      have behind : scope ('%' :: (zone ++ ']' :: ':' :: number)) =
          (value.toNat, ']' :: ':' :: number) :=
        scope_eq_iff.mpr (.inr ⟨zone, rfl, zoned, Nat.le_of_lt_succ value.toNat_lt⟩)
      exact .inr ⟨rfl, socketV6_eq_some_iff.mpr ⟨_, _, number, ip, value.toNat, port, rfl,
        ipv6_append whole percent _, behind, denotes, by rw [UInt32.ofNat_toNat]⟩⟩

end SeriesWire.Address
