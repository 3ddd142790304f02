/-! YAML documents as trees. -/
namespace SeriesWire

/-- A tree of YAML values. The entries of a map are in the order of the document. -/
inductive Yaml where
  | null
  | boolean (value : Bool)
  | integer (value : Int64)
  | real (text : String)
  | string (text : String)
  | array (items : List Yaml)
  | hash (entries : List (Yaml × Yaml))
  | alias (anchor : Nat)
  | bad

end SeriesWire
