import SeriesWire.Proofs.Writer.Pieces

/-! Lines packed into messages, apart from handing these over. A message is filled in order
until the next line does not fit, and begun anew before a record that does not fit as a whole.
Making room never changes the lines of any message, and a line either goes behind the message
that is being filled or begins a new one. All that is said of a whole batch follows from these
two steps. -/
namespace SeriesWire

/-- The lines of the messages that are full, the newest message first, and of the one
that is being filled, the newest line first. -/
structure Packing where
  full : List (List Line)
  pending : List Line
deriving DecidableEq

namespace Packing

variable {α : Type} {width : Width} {limit : Nat}

def empty : Packing := ⟨[], []⟩

/-- The number of octets in the message that is being filled. -/
def filled (packing : Packing) : Nat := (Line.join packing.pending.reverse).length

/-- Makes room for `octets` more: a message that would grow past the limit is full. -/
def reserve (width : Width) (limit : Nat) (packing : Packing) (octets : Nat) : Packing :=
  if packing.pending ≠ [] ∧ limit < width.add packing.filled octets then
    ⟨packing.pending.reverse :: packing.full, []⟩
  else packing

def append (packing : Packing) (line : Line) : Packing where
  full := packing.full
  pending := line :: packing.pending

/-- Puts a line where it fits. -/
def addLine (width : Width) (limit : Nat) (packing : Packing) (line : Line) : Packing :=
  (packing.reserve width limit (line.octets width)).append line

/-- Puts the lines of a record where they fit. They begin a message if the record as a
whole does not fit into the one at hand. -/
def addFrame (width : Width) (limit : Nat) (packing : Packing) (frame : Frame α) : Packing :=
  frame.lines.foldl (addLine width limit)
    (packing.reserve width limit (width.add frame.size 1))

def ofFrames (width : Width) (limit : Nat) (frames : List (Frame α)) : Packing :=
  frames.foldl (addFrame width limit) empty

/-- The lines of the messages that became full, in order. -/
def flushed (packing : Packing) : List (List Line) := packing.full.reverse

/-- The lines of the message that was still being filled, if it holds any. -/
def last? (packing : Packing) : Option (List Line) :=
  if packing.pending.isEmpty then none else some packing.pending.reverse

def groups (packing : Packing) : List (List Line) := packing.flushed ++ packing.last?.toList

theorem groups_of_pending_eq_nil {packing : Packing} (h : packing.pending = []) :
    packing.groups = packing.flushed := by
  simp [groups, last?, h]

theorem groups_of_pending_ne_nil {packing : Packing} (h : packing.pending ≠ []) :
    packing.groups = packing.flushed ++ [packing.pending.reverse] := by
  simp [groups, last?, h]

/-- The two ways of making room: there is enough of it, or the message is full. -/
theorem reserve_cases (width : Width) (limit : Nat) (packing : Packing) (octets : Nat) :
    (packing.reserve width limit octets = packing ∧
      (packing.pending = [] ∨ width.add packing.filled octets ≤ limit)) ∨
    (packing.pending ≠ [] ∧ limit < width.add packing.filled octets ∧
      (packing.reserve width limit octets).pending = [] ∧
      (packing.reserve width limit octets).flushed =
        packing.flushed ++ [packing.pending.reverse]) := by
  by_cases full : packing.pending ≠ [] ∧ limit < width.add packing.filled octets
  · have reserved : packing.reserve width limit octets =
        ⟨packing.pending.reverse :: packing.full, []⟩ := if_pos full
    exact .inr ⟨full.1, full.2, by rw [reserved], by simp [reserved, flushed]⟩
  · refine .inl ⟨if_neg full, ?_⟩
    by_cases empty : packing.pending = []
    · exact .inl empty
    · exact .inr (Nat.le_of_not_lt fun excess => full ⟨empty, excess⟩)

theorem reserve_groups (width : Width) (limit : Nat) (packing : Packing) (octets : Nat) :
    (packing.reserve width limit octets).groups = packing.groups := by
  rcases reserve_cases width limit packing octets with ⟨same, _⟩ | ⟨filled, _, pending, flushed⟩
  · rw [same]
  · rw [groups_of_pending_eq_nil pending, flushed, groups_of_pending_ne_nil filled]

theorem reserve_pending_of_lt (packing : Packing) {octets : Nat} (excess : limit < octets) :
    (packing.reserve .unbounded limit octets).pending = [] := by
  rcases reserve_cases .unbounded limit packing octets with
    ⟨same, empty | fits⟩ | ⟨_, _, pending, _⟩
  · rw [same, empty]
  · rw [Width.add_unbounded] at fits
    omega
  · exact pending

theorem reserve_reserve (width : Width) (limit : Nat) (packing : Packing) (octets : Nat) :
    (packing.reserve width limit octets).reserve width limit octets =
      packing.reserve width limit octets := by
  rcases reserve_cases width limit packing octets with ⟨same, _⟩ | ⟨_, _, pending, _⟩
  · rw [same, same]
  · rcases reserve_cases width limit (packing.reserve width limit octets) octets with
      ⟨same, _⟩ | ⟨filled, _⟩
    · exact same
    · exact absurd pending filled

/-- The two ways in which a line is put: as the first of a message, or behind others
with which it fits. -/
theorem addLine_cases (width : Width) (limit : Nat) (packing : Packing) (line : Line) :
    ((packing.pending = [] ∨ limit < width.add packing.filled (line.octets width)) ∧
      (packing.addLine width limit line).groups = packing.groups ++ [[line]] ∧
      (packing.addLine width limit line).pending = [line]) ∨
    (packing.pending ≠ [] ∧ width.add packing.filled (line.octets width) ≤ limit ∧
      packing.groups = packing.flushed ++ [packing.pending.reverse] ∧
      (packing.addLine width limit line).groups =
        packing.flushed ++ [packing.pending.reverse ++ [line]] ∧
      (packing.addLine width limit line).pending = line :: packing.pending) := by
  have appended (reserved : Packing) :
      (reserved.append line).groups = reserved.flushed ++ [reserved.pending.reverse ++ [line]] := by
    simp [groups_of_pending_ne_nil, append, flushed]
  have begun {reserved : Packing} (empty : reserved.pending = []) :
      (reserved.append line).groups = reserved.groups ++ [[line]] := by
    rw [appended, groups_of_pending_eq_nil empty, empty]
    rfl
  unfold addLine
  rcases reserve_cases width limit packing (line.octets width) with
    ⟨same, room⟩ | ⟨_, excess, pending, _⟩
  · rw [same]
    by_cases empty : packing.pending = []
    · exact .inl ⟨.inl empty, begun empty, by simp [append, empty]⟩
    · have fits := room.resolve_left empty
      exact .inr ⟨empty, fits, groups_of_pending_ne_nil empty, appended packing, rfl⟩
  · refine .inl ⟨.inr excess, ?_, by simp [append, pending]⟩
    rw [begun pending, reserve_groups]

theorem addLine_pending_ne_nil (packing : Packing) (line : Line) :
    (packing.addLine width limit line).pending ≠ [] := by
  simp [addLine, append]

/-- What making room and putting a line preserve holds of the messages of any frames. -/
theorem ofFrames_induction {P : Packing → Prop} {frames : List (Frame α)} (start : P empty)
    (reserve : ∀ packing octets, P packing → P (packing.reserve width limit octets))
    (addLine : ∀ packing, ∀ line ∈ frames.flatMap (·.lines), P packing →
      P (packing.addLine width limit line)) :
    P (ofFrames width limit frames) := by
  have fold_lines (lines : List Line) (among : ∀ line ∈ lines, line ∈ frames.flatMap (·.lines)) :
      ∀ packing, P packing → P (lines.foldl (Packing.addLine width limit) packing) := by
    induction lines with
    | nil => exact fun _ h => h
    | cons line lines ih =>
      intro packing h
      exact ih (fun l hl => among l (List.mem_cons_of_mem _ hl)) _
        (addLine packing line (among line List.mem_cons_self) h)
  have fold_frames (rest : List (Frame α)) (among : ∀ frame ∈ rest, frame ∈ frames) :
      ∀ packing, P packing → P (rest.foldl (addFrame width limit) packing) := by
    induction rest with
    | nil => exact fun _ h => h
    | cons frame rest ih =>
      intro packing h
      have here : ∀ line ∈ frame.lines, line ∈ frames.flatMap (·.lines) := fun line hl =>
        List.mem_flatMap.mpr ⟨frame, among frame List.mem_cons_self, hl⟩
      exact ih (fun f hf => among f (List.mem_cons_of_mem _ hf)) _
        (fold_lines frame.lines here _ (reserve packing _ h))
  exact fold_frames frames (fun _ h => h) empty start

theorem addLine_flatten (packing : Packing) (line : Line) :
    (packing.addLine width limit line).groups.flatten = packing.groups.flatten ++ [line] := by
  rcases addLine_cases width limit packing line with ⟨_, groups, _⟩ | ⟨_, _, before, groups, _⟩
  · simp [groups]
  · simp [before, groups]

theorem addFrame_flatten (packing : Packing) (frame : Frame α) :
    (packing.addFrame width limit frame).groups.flatten = packing.groups.flatten ++ frame.lines := by
  have fold (lines : List Line) : ∀ packing : Packing,
      (lines.foldl (addLine width limit) packing).groups.flatten =
        packing.groups.flatten ++ lines := by
    induction lines with
    | nil => simp
    | cons line lines ih => simp [ih, addLine_flatten]
  rw [addFrame, fold, reserve_groups]

theorem ofFrames_flatten (width : Width) (limit : Nat) (frames : List (Frame α)) :
    (ofFrames width limit frames).groups.flatten = frames.flatMap (·.lines) := by
  have fold (frames : List (Frame α)) : ∀ packing : Packing,
      (frames.foldl (addFrame width limit) packing).groups.flatten =
        packing.groups.flatten ++ frames.flatMap (·.lines) := by
    induction frames with
    | nil => simp
    | cons frame frames ih => simp [ih, addFrame_flatten]
  exact fold frames empty

theorem ofFrames_groups_ne_nil (width : Width) (limit : Nat) (frames : List (Frame α)) :
    ∀ group ∈ (ofFrames width limit frames).groups, group ≠ [] := by
  refine ofFrames_induction (P := fun p => ∀ group ∈ p.groups, group ≠ []) ?_ ?_ ?_
  · simp [empty, groups, flushed, last?]
  · intro packing octets h
    rwa [reserve_groups]
  · intro packing line _ h
    rcases addLine_cases width limit packing line with ⟨_, groups, _⟩ | ⟨_, _, before, groups, _⟩
    · simpa [groups, or_imp, forall_and] using h
    · simp only [before, groups, List.mem_append, List.mem_singleton] at h ⊢
      rintro group (closed | rfl)
      · exact h group (.inl closed)
      · simp

/-- Where lines are as long as announced, a message with more than one line keeps the limit. -/
theorem ofFrames_groups_fit (limit : Nat) (frames : List (Frame α))
    (sized : ∀ line ∈ frames.flatMap (·.lines), line.size = line.bytes.length) :
    ∀ group ∈ (ofFrames .unbounded limit frames).groups,
      (Line.join group).length ≤ limit ∨ ∃ line, group = [line] := by
  refine ofFrames_induction (P := fun p => ∀ group ∈ p.groups,
    (Line.join group).length ≤ limit ∨ ∃ line, group = [line]) ?_ ?_ ?_
  · simp [empty, groups, flushed, last?]
  · intro packing octets h
    rwa [reserve_groups]
  · intro packing line member h
    rcases addLine_cases .unbounded limit packing line with
      ⟨_, groups, _⟩ | ⟨_, fits, before, groups, _⟩
    · simp only [groups, List.mem_append, List.mem_singleton]
      rintro group (earlier | rfl)
      · exact h group earlier
      · exact .inr ⟨line, rfl⟩
    · simp only [before, groups, List.mem_append, List.mem_singleton] at h ⊢
      rintro group (closed | rfl)
      · exact h group (.inl closed)
      · left
        have length : (Line.join (packing.pending.reverse ++ [line])).length =
            packing.filled + (line.size + 1) := by
          simp [filled, Line.join, Line.terminated, sized line member]
        simp only [Width.add_unbounded, Line.octets] at fits
        omega

/-- After a frame that goes out without a line only if it is too large for any message,
a message is being filled exactly if the frame has a line. -/
theorem addFrame_pending_eq_nil (packing : Packing) {frame : Frame α}
    (oversized : frame.lines = [] → limit < frame.size + 1) :
    (packing.addFrame .unbounded limit frame).pending = [] ↔ frame.lines = [] := by
  rcases frame.lines.eq_nil_or_concat with noLines | ⟨lines, line, others⟩
  · simp only [addFrame, noLines, List.foldl_nil, iff_true]
    exact reserve_pending_of_lt packing (oversized noLines)
  · simp [addFrame, others, addLine_pending_ne_nil]

theorem ofFrames_last?_isSome (frames : List (Frame α))
    (oversized : ∀ frame ∈ frames, frame.lines = [] → limit < frame.size + 1) :
    (ofFrames .unbounded limit frames).last?.isSome ↔
      ∃ frame, frames.getLast? = some frame ∧ frame.lines ≠ [] := by
  rcases frames.eq_nil_or_concat with rfl | ⟨earlier, frame, rfl⟩
  · simp [ofFrames, empty, last?]
  · have last := addFrame_pending_eq_nil (ofFrames .unbounded limit earlier)
      (oversized frame (by simp))
    simp [ofFrames] at last
    simp [ofFrames, last?, last]

end Packing

end SeriesWire
