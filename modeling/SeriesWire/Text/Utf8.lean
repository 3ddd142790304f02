import SeriesWire.Octets

/-! UTF-8, the octets of a text and back. The reader is a machine over octets that
keeps, for a character begun and not finished, the range in which the next octet
must lie; the ranges leave no room for overlong forms, surrogates or code points
past U+10FFFF. An octet outside the range ends the character begun without a
result and is read again as a first octet. -/
namespace SeriesWire.Utf8

def encodeChars (cs : List Char) : Bytes := cs.flatMap String.utf8EncodeChar

def encode (s : String) : Bytes := encodeChars s.toList

theorem encode_injective {s t : String} (h : encode s = encode t) : s = t := by
  rw [← String.toByteArray_inj, ← String.ofList_toList (s := s),
    ← String.ofList_toList (s := t), String.toByteArray_ofList, String.toByteArray_ofList]
  exact congrArg List.toByteArray h

/-- A character begun: how many octets are missing, the range in which the next one
lies, and the number that the octets so far make. -/
structure Begun where
  missing : Nat
  low : Nat
  high : Nat
  code : Nat

/-- The machine between two octets. The newest result stands first; `none` in it
is a place at which no character could be read. -/
structure Reading where
  begun : Option Begun
  results : List (Option Char)

/-- A character begun of which the octets that follow may have any continuation value. -/
def Begun.plain (missing code : Nat) : Begun := ⟨missing, 0x80, 0xBF, code⟩

/-- What the octet `b` is at the beginning of a character. -/
def first (results : List (Option Char)) (b : Nat) : Reading :=
  if b < 0x80 then ⟨none, some (Char.ofNat b) :: results⟩
  else if b < 0xC2 then ⟨none, none :: results⟩
  else if b < 0xE0 then ⟨some (.plain 1 (b - 0xC0)), results⟩
  else if b = 0xE0 then ⟨some ⟨2, 0xA0, 0xBF, 0⟩, results⟩
  else if b = 0xED then ⟨some ⟨2, 0x80, 0x9F, 0xD⟩, results⟩
  else if b < 0xF0 then ⟨some (.plain 2 (b - 0xE0)), results⟩
  else if b = 0xF0 then ⟨some ⟨3, 0x90, 0xBF, 0⟩, results⟩
  else if b < 0xF4 then ⟨some (.plain 3 (b - 0xF0)), results⟩
  else if b = 0xF4 then ⟨some ⟨3, 0x80, 0x8F, 4⟩, results⟩
  else ⟨none, none :: results⟩

def step (s : Reading) (octet : UInt8) : Reading :=
  let b := octet.toNat
  match s.begun with
  | none => first s.results b
  | some c =>
    if c.low ≤ b ∧ b ≤ c.high then
      let code := c.code * 64 + (b - 0x80)
      if c.missing = 1 then ⟨none, some (Char.ofNat code) :: s.results⟩
      else ⟨some (.plain (c.missing - 1) code), s.results⟩
    else first (none :: s.results) b

/-- The characters in some octets, with `none` for each place that holds no character. -/
def scan (bytes : Bytes) : List (Option Char) :=
  let last := bytes.foldl step ⟨none, []⟩
  (if last.begun.isSome then none :: last.results else last.results).reverse

def decode? (bytes : Bytes) : Option String := ((scan bytes).mapM id).map String.ofList

/-- The text of some octets, with U+FFFD for each place that holds no character. -/
def decodeLossy (bytes : Bytes) : String := String.ofList ((scan bytes).map (·.getD '\uFFFD'))

end SeriesWire.Utf8
