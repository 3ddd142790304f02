import SeriesWire.FieldValue

/-! Field sets in their written form: the fields with a comma between two of them,
and where each field ends. Taking neighbouring fields out of a set, and dividing it at
a size, only cuts the octets and writes no field again. -/
namespace SeriesWire

abbrev Field := String × FieldValue

def Field.encode (field : Field) : Bytes :=
  Escape.tag (Utf8.encode field.1) ++ Octet.equals :: field.2.encode

structure FieldSet where
  bytes : Bytes
  /-- For each field the number of octets up to its end. -/
  ends : List Nat
deriving DecidableEq

namespace FieldSet

/-- The ends of texts of which the first begins at `start`, with one octet between
two of them. -/
def endsFrom (start : Nat) : List Bytes → List Nat
  | [] => []
  | text :: texts => (start + text.length) :: endsFrom (start + text.length + 1) texts

def pack (texts : List Bytes) : FieldSet where
  bytes := [Octet.comma].intercalate texts
  ends := endsFrom 0 texts

def ofFields (fields : List Field) : FieldSet := pack (fields.map Field.encode)

def count (set : FieldSet) : Nat := set.ends.length

/-- The ends of the fields of each run, from a run at hand on. That run begins at `start`
and has the fields with the ends `run`, the last of them first. The other ends are those of
the fields behind it, of which the first begins at `next`. -/
def runsFrom (room : Int) (start next : Nat) (run : List Nat) : List Nat → List (List Nat)
  | [] => [run.reverse]
  | stop :: ends =>
    if run ≠ [] ∧ room < (stop - start : Nat) then
      run.reverse :: runsFrom room next (stop + 1) [stop] ends
    else runsFrom room start (stop + 1) (stop :: run) ends

/-- The ends of the fields of each run, when fields are taken in order and as many put
into a run as fit into `room` octets with the commas between them, but at least one. -/
def runs (set : FieldSet) (room : Int) : List (List Nat) := runsFrom room 0 0 [] set.ends

/-- The sets that some octets are, of which the first stands at `start`, when cut behind
each run. The comma behind a run is dropped, and the ends count from where the run begins. -/
def cut (start : Nat) (bytes : Bytes) : List (List Nat) → List FieldSet
  | [] => []
  | run :: runs =>
    let stop := run.getLast?.getD start
    { bytes := bytes.take (stop - start), ends := run.map (· - start) } ::
      cut (stop + 1) (bytes.drop (stop + 1 - start)) runs

def divide (set : FieldSet) (room : Int) : List FieldSet := cut 0 set.bytes (set.runs room)

end FieldSet

end SeriesWire
