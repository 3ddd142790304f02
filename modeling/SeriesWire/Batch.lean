import SeriesWire.Point.Round
import SeriesWire.Precision

/-! Batches: points that are sent together, with one precision for their times. -/
namespace SeriesWire

/-- What is said of all points of a batch. Texts that are empty say nothing. -/
structure BatchConfig where
  precision : String
  database : String
  retentionPolicy : String
  writeConsistency : String
deriving DecidableEq, Repr

def BatchConfig.empty : BatchConfig := ⟨"", "", "", ""⟩

inductive BatchError where
  | invalidPrecision (tag : String)
deriving DecidableEq, Repr

/-- The wording of a refusal. -/
def BatchError.message : BatchError → String
  | .invalidPrecision tag => s!"invalid precision {tag}"

/-- Points and what is said of all of them. -/
structure Batch where
  points : List Point
  config : BatchConfig
deriving DecidableEq

namespace Batch

def checkPrecision (tag : String) : Except BatchError Unit :=
  if tag.isEmpty || (Precision.unit? tag).isSome then .ok () else .error (.invalidPrecision tag)

def empty : Batch := ⟨[], .empty⟩

def create (config : BatchConfig) : Except BatchError Batch := do
  checkPrecision config.precision
  .ok ⟨[], config⟩

def unit? (batch : Batch) : Option Duration := Precision.unit? batch.config.precision

def addPoint (batch : Batch) (point : Point) : Batch :=
  { batch with points := batch.points ++ [point] }

def addPoints (batch : Batch) (points : List Point) : Batch :=
  { batch with points := batch.points ++ points }

/-- The batch with another point at `index`, if it has one there. -/
def changePoint? (batch : Batch) (index : Nat) (change : Point → Point) : Option Batch :=
  if index < batch.points.length then
    some { batch with points := batch.points.modify index change }
  else none

/-- The batch with all times rounded to its unit, if it has one. -/
def roundPoints? (batch : Batch) : Option Batch :=
  batch.unit?.map fun unit => { batch with points := batch.points.map (Point.round unit) }

/-- Sets the precision of the batch at hand. The check comes before the change. -/
def assignPrecision (tag : String) : ExceptT BatchError (StateM Batch) Unit := do
  MonadExcept.ofExcept (checkPrecision tag)
  modify fun batch => { batch with config := { batch.config with precision := tag } }

def setPrecision (batch : Batch) (tag : String) : Except BatchError Batch :=
  let (result, after) := (assignPrecision tag).run.run batch
  result.map fun _ => after

def setDatabase (batch : Batch) (name : String) : Batch :=
  { batch with config := { batch.config with database := name } }

def setRetentionPolicy (batch : Batch) (name : String) : Batch :=
  { batch with config := { batch.config with retentionPolicy := name } }

def setWriteConsistency (batch : Batch) (level : String) : Batch :=
  { batch with config := { batch.config with writeConsistency := level } }

end Batch

end SeriesWire
