import SeriesWire.ByteSize
import SeriesWire.ClientConfig.Basic
import SeriesWire.Yaml

/-! Settings from a YAML tree: the address alone, or a map that names it and possibly
the size of messages. -/
namespace SeriesWire

inductive PayloadSizeError where
  | outOfRange (value : Int64)
  | unreadable (text : String) (cause : ByteSizeError)
  | wrongType
deriving DecidableEq, Repr

def PayloadSizeError.message : PayloadSizeError → String
  | .outOfRange value =>
    s!"payload size {String.ofList (Decimal.integer value.toInt)} is out of range"
  | .unreadable text cause => s!"invalid payload size {text}: {cause.message}"
  | .wrongType => "payload size should be an integer or a humanized string"

inductive ConfigError where
  | keyNotString
  | addressNotString (key : String)
  | invalidPayloadSize (key : String) (cause : PayloadSizeError)
  | unknownKey (key : String)
  | noAddress
  | wrongType
deriving DecidableEq, Repr

namespace ConfigError

def message : ConfigError → String
  | .keyNotString => "key in hash should be string"
  | .addressNotString key => s!"yaml value type for key {key} should be 'string'"
  | .invalidPayloadSize key _ => s!"invalid value for key {key}"
  | .unknownKey key => s!"invalid key {key}"
  | .noAddress => "no target address has been set"
  | .wrongType =>
    "yaml value type for 'influxdb tcp client config' should be 'map' or 'string'"

/-- The wordings of a fault and of its causes, from the outermost on. -/
def chain (e : ConfigError) : List String :=
  e.message :: match e with
    | .invalidPayloadSize _ cause => [cause.message]
    | _ => []

end ConfigError

namespace ClientConfig

inductive Setting where
  | address
  | payloadSize
deriving DecidableEq, Repr

/-- The setting that a key names. Case does not count, nor whether words are joined
by `-` or `_`. -/
def Setting.ofKey? (key : String) : Option Setting :=
  let name := String.ofList
    ((Text.lower key.toList).map fun c => if c = '-' then '_' else c)
  if name = "addr" ∨ name = "address" ∨ name = "target" then some .address
  else if name = "payload_size" then some .payloadSize
  else none

/-- A number of octets, as a number or in the form that people write. -/
def payloadSizeOf : Yaml → Except PayloadSizeError Nat
  | .integer value => if value < 0 then .error (.outOfRange value) else .ok value.toInt.toNat
  | .string text => (ByteSize.parse text).mapError (.unreadable text)
  | _ => .error .wrongType

structure Entries where
  address : Option String
  payloadSize : Nat
deriving DecidableEq, Repr

/-- One entry more; it replaces what an earlier one has set. -/
def addEntry (entries : Entries) (entry : Yaml × Yaml) : Except ConfigError Entries :=
  match entry.1 with
  | .string key =>
    match Setting.ofKey? key with
    | some .address =>
      match entry.2 with
      | .string text => .ok { entries with address := some text }
      | _ => .error (.addressNotString key)
    | some .payloadSize =>
      match payloadSizeOf entry.2 with
      | .ok size => .ok { entries with payloadSize := size }
      | .error cause => .error (.invalidPayloadSize key cause)
    | none => .error (.unknownKey key)
  | _ => .error .keyNotString

/-- The settings that a tree holds. The first faulty entry counts, before a missing
address. -/
def ofYaml : Yaml → Except ConfigError ClientConfig
  | .string address => .ok (create address)
  | .hash list => do
    let entries ← list.foldlM addEntry ⟨none, 0⟩
    match entries.address with
    | some address => .ok ((create address).setPayloadSize entries.payloadSize)
    | none => .error .noAddress
  | _ => .error .wrongType

end ClientConfig

end SeriesWire
