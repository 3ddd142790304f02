import SeriesWire.Proofs.Sink.Exchange

/-! What a recorder makes of messages handed over one after the other. While it is open the
number of an attempt alone tells whether a message is taken, whoever hands it over; once it is
closed nothing is taken, and nothing counts. -/
namespace SeriesWire.Recorder

/-- The answers of an open recorder to messages of which the first has the number `attempt`. -/
def answers (failAt : List Nat) (attempt : Nat) (messages : List Bytes) : List Delivery :=
  (messages.zipIdx attempt).map fun (message, attempt) =>
    ⟨message, if attempt ∈ failAt then some (.injected attempt) else none⟩

/-- The messages of these that are taken. -/
def kept (failAt : List Nat) (attempt : Nat) (messages : List Bytes) : List Bytes :=
  ((messages.zipIdx attempt).filter fun (_, attempt) => attempt ∉ failAt).map (·.1)

theorem answers_cons (failAt : List Nat) (attempt : Nat) (message : Bytes)
    (messages : List Bytes) :
    answers failAt attempt (message :: messages) =
      ⟨message, if attempt ∈ failAt then some (.injected attempt) else none⟩ ::
        answers failAt (attempt + 1) messages := rfl

theorem accepted_answers (failAt : List Nat) (attempt : Nat) (messages : List Bytes) :
    Delivery.accepted (answers failAt attempt messages) = kept failAt attempt messages := by
  simp only [Delivery.accepted, answers, kept, List.filter_map, List.map_map]
  congr 1
  refine List.filter_congr ?_
  rintro ⟨message, attempt⟩ -
  by_cases listed : attempt ∈ failAt <;> simp [listed]

theorem kept_append (failAt : List Nat) (attempt : Nat) (earlier later : List Bytes) :
    kept failAt attempt (earlier ++ later) =
      kept failAt attempt earlier ++ kept failAt (attempt + earlier.length) later := by
  simp only [kept, List.zipIdx_append, List.filter_append, List.map_append]

/-- What handing messages to an open recorder comes to. -/
structure Counts (r : Recorder) (deliveries : List Delivery) (last : Recorder) : Prop where
  answers : deliveries = Recorder.answers r.failAt r.attempts (deliveries.map (·.message))
  failAt : last.failAt = r.failAt
  attempts : last.attempts = r.attempts + deliveries.length
  isOpen : last.isClosed = false

theorem counts_of_exchange {r last : Recorder} {deliveries : List Delivery}
    (exchange : Exchange r deliveries last) (isOpen : r.isClosed = false) :
    r.Counts deliveries last := by
  induction exchange with
  | done r => exact ⟨rfl, rfl, rfl, isOpen⟩
  | taken sent _ ih =>
    rcases send_cases sent with ⟨-, ⟨⟩, -⟩ | ⟨-, -, ⟨⟩, -⟩ | ⟨-, other, -, rfl⟩
    obtain ⟨answers, failAt, attempts, still⟩ := ih isOpen
    refine ⟨?_, failAt, ?_, still⟩
    · rw [List.map_cons, answers_cons, if_neg other, ← answers]
    · simp only [attempts, List.length_cons]
      omega
  | refused sent _ ih =>
    rcases send_cases sent with ⟨closed, -, -⟩ | ⟨-, listed, same, rfl⟩ | ⟨-, -, ⟨⟩, -⟩
    · rw [isOpen] at closed
      cases closed
    · obtain rfl := Except.error.inj same
      obtain ⟨answers, failAt, attempts, still⟩ := ih isOpen
      refine ⟨?_, failAt, ?_, still⟩
      · rw [List.map_cons, answers_cons, if_pos listed, ← answers]
      · simp only [attempts, List.length_cons]
        omega

theorem writes_of_exchange {r last : Recorder} {deliveries : List Delivery}
    (exchange : Exchange r deliveries last) (isOpen : r.isClosed = false) :
    last.writes = r.writes ++ kept r.failAt r.attempts (deliveries.map (·.message)) := by
  rw [exchange.received_eq keeps_writes, ← accepted_answers,
    ← (counts_of_exchange exchange isOpen).answers]

/-- A closed recorder stays as it is, and refuses everything. -/
theorem eq_of_exchange_closed {r last : Recorder} {deliveries : List Delivery}
    (exchange : Exchange r deliveries last) (closed : r.isClosed = true) :
    last = r ∧ ∀ delivery ∈ deliveries, delivery.refusal = some .closed := by
  induction exchange with
  | done => simp
  | taken sent _ ih =>
    rcases send_cases sent with ⟨-, ⟨⟩, -⟩ | ⟨-, -, ⟨⟩, -⟩ | ⟨isOpen, -, -, -⟩
    rw [closed] at isOpen
    cases isOpen
  | refused sent _ ih =>
    rcases send_cases sent with ⟨-, same, rfl⟩ | ⟨isOpen, -, -, -⟩ | ⟨-, -, ⟨⟩, -⟩
    · obtain rfl := Except.error.inj same
      obtain ⟨stays, refused⟩ := ih closed
      exact ⟨stays, List.forall_mem_cons.mpr ⟨rfl, refused⟩⟩
    · rw [closed] at isOpen
      cases isOpen

end SeriesWire.Recorder
