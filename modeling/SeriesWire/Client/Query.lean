/-! Queries and the answers to them. -/
namespace SeriesWire

structure Query where
  command : String
  database : String
  retentionPolicy : String
  precision : String
  chunked : Bool
  chunkSize : Nat
deriving DecidableEq, Repr

/-- A query whose answer comes in one piece. -/
def Query.create (command database precision : String) : Query :=
  { command, database, retentionPolicy := "", precision, chunked := false, chunkSize := 0 }

structure StatementResult where
  statementId : Nat
  messages : List String
  error : Option String
deriving DecidableEq, Repr

structure Response where
  results : List StatementResult
  error : Option String
deriving DecidableEq, Repr

/-- The pieces of an answer that are left, in the order in which they came. -/
structure ChunkedResponse where
  chunks : List Response
deriving DecidableEq, Repr

def ChunkedResponse.next (answer : ChunkedResponse) : Option Response × ChunkedResponse :=
  match answer.chunks with
  | [] => (none, answer)
  | chunk :: chunks => (some chunk, ⟨chunks⟩)

end SeriesWire
