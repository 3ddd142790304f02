import SeriesWire.Address.Resolve
import SeriesWire.Proofs.Address.Socket

/-! Resolving the texts of sockets. One with a scope is taken apart on a path of its own, at the
first `]:` and the first `%`. In the text of a socket there are no others, and both paths read its
numbers alike, so the text resolves to its socket and to nothing else, on whatever machine. -/
namespace SeriesWire.Address

open Decimal (Denotes)

theorem not_mem_of_denotes {text : List Char} {n : Nat} {c : Char} (denotes : Denotes text n)
    (other : c.isDigit = false) : c ∉ text := by
  intro member
  have digit := denotes.digits c member
  rw [other] at digit
  cases digit

theorem not_mem_of_ipv6? {text : List Char} {ip : Ipv6Address} {c : Char}
    (whole : ipv6? text = some ip) (other : ¬InAddress c) : c ∉ text :=
  fun member => other (takes_ipv6.of_whole whole c member)

theorem not_mem_ipv4Text {ip : Ipv4Address} {c : Char} (other : c.isDigit = false)
    (notPoint : c ≠ '.') : c ∉ ip.text := by
  intro member
  have whole : ipv4 ip.text = some (ip, []) :=
    (ipv4_eq_some_iff digitsEnd_nil).mpr (List.append_nil _).symm
  rcases takes_ipv4.of_whole (whole_eq_some_iff.mpr whole) c member with digit | point
  · rw [Text.digitValue_lt_ten_iff, other] at digit
    cases digit
  · exact notPoint point

theorem resolveZoned_eq (host : Host) {text zone number : List Char} {ip : Ipv6Address}
    {port : UInt16} {scope : UInt32} (whole : ipv6? text = some ip)
    (scopeText : Denotes zone scope.toNat) (portText : Denotes number port.toNat) :
    resolveZoned host text zone number = .ok (.v6 ip port 0 scope) := by
  have portLe : port.toNat ≤ 65535 := Nat.le_of_lt_succ port.toNat_lt
  have scopeLe : scope.toNat ≤ 4294967295 := Nat.le_of_lt_succ scope.toNat_lt
  have zoned : zoneScope host zone = .ok scope := by
    rw [zoneScope, scopeText.read_eq scopeLe]
    simp only [UInt32.ofNat_toNat]
  simp only [resolveZoned, whole, portText.read_eq portLe, zoned]
  simp [Except.mapError, bind, Except.bind]

/-- Where no bracket closes earlier, what stands in brackets is cut at its first `%`. -/
theorem zonedParts?_brackets {inside : List Char} (noBracket : ']' ∉ inside) (number : List Char) :
    zonedParts? ('[' :: (inside ++ ']' :: ':' :: number)) =
      (Text.cut ['%'] inside).map fun (text, zone) => (text, zone, number) := by
  have closed : Text.cut [']', ':'] (inside ++ ']' :: ':' :: number) = some (inside, number) :=
    Text.cut_append noBracket number
  have opened := symbol_eq_some_iff.mpr (rfl : '[' :: (inside ++ ']' :: ':' :: number) = _)
  rw [zonedParts?, opened]
  simp only [Option.bind_eq_bind, Option.bind_some, closed]
  cases Text.cut ['%'] inside <;> rfl

/-- A text with a scope is taken apart into its three parts, and no other is. -/
theorem SocketText.zonedParts?_cases {cs : List Char} {socket : SocketAddress}
    (told : SocketText cs socket) :
    ('%' ∉ cs ∧ zonedParts? cs = none) ∨
    ∃ text zone number, '%' ∈ cs ∧ zonedParts? cs = some (text, zone, number) ∧
      ∀ host, resolveZoned host text zone number = .ok socket := by
  have bracket : ¬InAddress ']' := by decide
  have percent : ¬InAddress '%' := by decide
  cases told with
  | @v4 ip port number portText =>
    have absent {c : Char} (other : c.isDigit = false) (notPoint : c ≠ '.') (notColon : c ≠ ':') :
        c ∉ ip.text ++ ':' :: number := by
      simp [not_mem_ipv4Text other notPoint, notColon, not_mem_of_denotes portText other]
    refine .inl ⟨absent rfl (by decide) (by decide), ?_⟩
    have noBracket : symbol '[' (ip.text ++ ':' :: number) = none :=
      symbol_eq_none fun first => absent rfl (by decide) (by decide) (List.mem_of_head? first)
    rw [zonedParts?, noBracket]
    rfl
  | v6 whole portText =>
    have noPercent := not_mem_of_ipv6? whole percent
    refine .inl ⟨by simp [noPercent, not_mem_of_denotes portText], ?_⟩
    rw [zonedParts?_brackets (not_mem_of_ipv6? whole bracket) _, Text.cut_eq_none noPercent]
    rfl
  | @zoned ip port scope text zone number whole scopeText portText =>
    refine .inr ⟨text, zone, number, by simp, ?_,
      fun host => resolveZoned_eq host whole scopeText portText⟩
    have noBracket : ']' ∉ text ++ '%' :: zone := by
      simp [not_mem_of_ipv6? whole bracket, not_mem_of_denotes scopeText]
    have divided : Text.cut ['%'] (text ++ '%' :: zone) = some (text, zone) :=
      Text.cut_append (not_mem_of_ipv6? whole percent) zone
    have parts := zonedParts?_brackets noBracket number
    rw [divided, List.append_assoc] at parts
    exact parts

/-- Whatever the reader of sockets takes as a whole text is one of the three forms and resolves
to the socket that is read, alone and on every machine. Texts with a scope, and no others, are
taken apart by a path of their own. -/
theorem resolve_socket_alone (host : Host) (text : String) (socket : SocketAddress) :
    (socket? text.toList = some socket ↔ SocketText text.toList socket) ∧
    (socket? text.toList = some socket → resolve host text = .ok [socket] ∧
      ((zonedParts? text.toList).isSome ↔ '%' ∈ text.toList)) := by
  refine ⟨socket?_eq_some_iff, fun accepted => ?_⟩
  rcases (socket?_eq_some_iff.mp accepted).zonedParts?_cases with
    ⟨noPercent, unread⟩ | ⟨ip, zone, number, percent, parts, resolved⟩
  · rw [resolve, unread, accepted]
    simp [noPercent]
  · rw [resolve, parts]
    simp only [resolved host]
    exact ⟨rfl, by simp [percent]⟩

/-- The largest scope and port, behind zeros, and four octets behind a run of groups left out. The
scope is a number although the machine has an interface of that name. -/
theorem resolve_socket_alone_largest :
    let text := "[::ffff:1.2.3.255%0004294967295]:0065535"
    let host : Host := ⟨fun name => if name = "0004294967295" then some 5 else none, fun _ => none⟩
    let socket : SocketAddress :=
      .v6 ⟨[0, 0, 0, 0, 0, 0xFFFF, 0x0102, 0x03FF], rfl⟩ 65535 0 4294967295
    socket? text.toList = some socket ∧ SocketText text.toList socket ∧
    resolve host text = .ok [socket] ∧ (zonedParts? text.toList).isSome := by
  intro text host socket
  have accepted : socket? text.toList = some socket := by decide
  obtain ⟨told, resolves⟩ := resolve_socket_alone host text socket
  obtain ⟨resolved, apart⟩ := resolves accepted
  exact ⟨accepted, told.mp accepted, resolved, apart.mpr (by decide)⟩

end SeriesWire.Address
