import Mathlib.Tactic.SplitIfs
import SeriesWire.Batch

/-! What callers do with a batch before it is sent. A precision is checked wherever one comes in,
by the same table that names its unit later, and a refused call leaves the batch as it was. So
whatever was called, the precision is empty or there is a unit for it. -/
namespace SeriesWire

/-- What a batch can be asked for. Several points are changed one after the other. -/
inductive BatchCall where
  | addPoint (point : Point)
  | addPoints (points : List Point)
  | changePoint (index : Nat) (change : Point → Point)
  | setPrecision (tag : String)
  | setDatabase (name : String)
  | setRetentionPolicy (name : String)
  | setWriteConsistency (level : String)

inductive BatchAnswer where
  | done
  | refused (error : BatchError)
  | noSuchPoint
deriving DecidableEq

theorem Precision.unit?_empty : unit? "" = none := by decide

theorem Precision.toNanos_pos {tag : String} {unit : Duration} (named : unit? tag = some unit) :
    0 < unit.toNanos := by
  unfold unit? at named
  split_ifs at named <;> (cases named; decide)

namespace Batch

/-- Batches that nothing was asked of yet. -/
inductive IsNew : Batch → Prop where
  | empty : IsNew .empty
  | created {config : BatchConfig} {batch : Batch} : create config = .ok batch → IsNew batch

/-- The answer to a call, and the batch after it. -/
def perform (batch : Batch) : BatchCall → BatchAnswer × Batch
  | .addPoint point => (.done, batch.addPoint point)
  | .addPoints points => (.done, batch.addPoints points)
  | .changePoint index change =>
    match batch.changePoint? index change with
    | none => (.noSuchPoint, batch)
    | some changed => (.done, changed)
  | .setPrecision tag =>
    match (assignPrecision tag).run.run batch with
    | (.error error, after) => (.refused error, after)
    | (.ok _, after) => (.done, after)
  | .setDatabase name => (.done, batch.setDatabase name)
  | .setRetentionPolicy name => (.done, batch.setRetentionPolicy name)
  | .setWriteConsistency level => (.done, batch.setWriteConsistency level)

def run (batch : Batch) (calls : List BatchCall) : Batch :=
  calls.foldl (fun batch call => (batch.perform call).2) batch

/-- An empty precision asks for no rounding, and any other names a unit. -/
def IsPrecise (batch : Batch) : Prop := batch.config.precision = "" ∨ batch.unit?.isSome

/-- An empty precision and one that names a unit pass the check, and no other does. -/
theorem checkPrecision_cases (tag : String) :
    ((tag = "" ∨ (Precision.unit? tag).isSome) ∧ checkPrecision tag = .ok ()) ∨
    (¬(tag = "" ∨ (Precision.unit? tag).isSome) ∧
      checkPrecision tag = .error (.invalidPrecision tag)) := by
  have test : (tag.isEmpty || (Precision.unit? tag).isSome) = true ↔
      tag = "" ∨ (Precision.unit? tag).isSome := by simp [String.isEmpty_iff]
  simp only [checkPrecision, test]
  by_cases known : tag = "" ∨ (Precision.unit? tag).isSome
  · exact .inl ⟨known, if_pos known⟩
  · exact .inr ⟨known, if_neg known⟩

theorem IsNew.isPrecise {batch : Batch} (new : batch.IsNew) : batch.IsPrecise := by
  cases new with
  | empty => exact .inl rfl
  | @created config _ made =>
    unfold create at made
    rcases checkPrecision_cases config.precision with ⟨known, passed⟩ | ⟨-, failed⟩
    · rw [passed] at made
      cases made
      exact known
    · rw [failed] at made
      cases made

/-- A tag that passes the check is set, and any other leaves the batch as it was. -/
theorem assignPrecision_cases (batch : Batch) (tag : String) :
    ((tag = "" ∨ (Precision.unit? tag).isSome) ∧ (assignPrecision tag).run.run batch =
      (.ok (), { batch with config := { batch.config with precision := tag } })) ∨
    (¬(tag = "" ∨ (Precision.unit? tag).isSome) ∧
      (assignPrecision tag).run.run batch = (.error (.invalidPrecision tag), batch)) := by
  rcases checkPrecision_cases tag with ⟨known, passed⟩ | ⟨unknown, failed⟩
  · refine .inl ⟨known, ?_⟩
    rw [assignPrecision, passed]
    rfl
  · refine .inr ⟨unknown, ?_⟩
    rw [assignPrecision, failed]
    rfl

theorem perform_setPrecision_cases (batch : Batch) (tag : String) :
    ((tag = "" ∨ (Precision.unit? tag).isSome) ∧ batch.perform (.setPrecision tag) =
      (.done, { batch with config := { batch.config with precision := tag } })) ∨
    (¬(tag = "" ∨ (Precision.unit? tag).isSome) ∧
      batch.perform (.setPrecision tag) = (.refused (.invalidPrecision tag), batch)) := by
  rcases batch.assignPrecision_cases tag with ⟨known, accepted⟩ | ⟨unknown, rejected⟩
  · exact .inl ⟨known, by rw [perform, accepted]⟩
  · exact .inr ⟨unknown, by rw [perform, rejected]⟩

theorem IsPrecise.perform {batch : Batch} (precise : batch.IsPrecise) (call : BatchCall) :
    (batch.perform call).2.IsPrecise := by
  cases call with
  | addPoint | addPoints | setDatabase | setRetentionPolicy | setWriteConsistency => exact precise
  | changePoint index change =>
    simp only [Batch.perform, changePoint?]
    by_cases inside : index < batch.points.length
    · rw [if_pos inside]
      exact precise
    · rw [if_neg inside]
      exact precise
  | setPrecision tag =>
    rcases batch.perform_setPrecision_cases tag with ⟨known, accepted⟩ | ⟨-, rejected⟩
    · rw [accepted]
      exact known
    · rw [rejected]
      exact precise

theorem IsPrecise.run {batch : Batch} (precise : batch.IsPrecise) (calls : List BatchCall) :
    (batch.run calls).IsPrecise := by
  induction calls generalizing batch with
  | nil => exact precise
  | cons call calls ih => exact ih (precise.perform call)

end Batch

end SeriesWire
