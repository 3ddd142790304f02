import SeriesWire.Sink.Recorder
import SeriesWire.Sink.Stream
import SeriesWire.Writer.Sending

/-! What a sink answers to messages handed over one after the other. The sink is arbitrary:
it may refuse any of them, and its state may change with every message. -/
namespace SeriesWire

variable {σ : Type} [Sink σ]

/-- A sink is handed some messages in order, and answers each before the next one. -/
inductive Exchange : σ → List Delivery → σ → Prop where
  | done (sink : σ) : Exchange sink [] sink
  | taken {message : Bytes} {sink next last : σ} {rest : List Delivery} :
      Sink.send message sink = (.ok (), next) → Exchange next rest last →
      Exchange sink (⟨message, none⟩ :: rest) last
  | refused {message : Bytes} {cause : IoError} {sink next last : σ} {rest : List Delivery} :
      Sink.send message sink = (.error cause, next) → Exchange next rest last →
      Exchange sink (⟨message, some cause⟩ :: rest) last

theorem Exchange.append {sink next last : σ} {earlier later : List Delivery}
    (first : Exchange sink earlier next) (second : Exchange next later last) :
    Exchange sink (earlier ++ later) last := by
  induction first with
  | done => exact second
  | taken sent _ ih => exact .taken sent (ih second)
  | refused sent _ ih => exact .refused sent (ih second)

def Delivery.accepted (deliveries : List Delivery) : List Bytes :=
  (deliveries.filter (·.refusal.isNone)).map (·.message)

/-- `received` tells from the state of a sink what it has received: one message more after
it took one, and the same as before after it refused one. -/
structure Sink.Keeps (received : σ → List Bytes) : Prop where
  taken : ∀ {message sink next}, Sink.send message sink = (.ok (), next) →
    received next = received sink ++ [message]
  refused : ∀ {message cause sink next}, Sink.send message sink = (.error cause, next) →
    received next = received sink

/-- The three ways in which a recorder answers a message. -/
theorem Recorder.send_cases {message : Bytes} {r next : Recorder} {result : Except IoError Unit}
    (sent : Sink.send message r = (result, next)) :
    (r.isClosed = true ∧ result = .error .closed ∧ next = r) ∨
    (r.isClosed = false ∧ r.attempts ∈ r.failAt ∧ result = .error (.injected r.attempts) ∧
      next = { r with attempts := r.attempts + 1 }) ∨
    (r.isClosed = false ∧ r.attempts ∉ r.failAt ∧ result = .ok () ∧
      next = { r with attempts := r.attempts + 1, taken := message :: r.taken }) := by
  simp only [Sink.send, Recorder.send] at sent
  split at sent
  next closed =>
    obtain ⟨rfl, rfl⟩ := Prod.mk.inj sent
    exact .inl ⟨closed, rfl, rfl⟩
  next isOpen =>
    rw [Bool.not_eq_true] at isOpen
    split at sent
    next listed =>
      obtain ⟨rfl, rfl⟩ := Prod.mk.inj sent
      exact .inr (.inl ⟨isOpen, listed, rfl, rfl⟩)
    next other =>
      obtain ⟨rfl, rfl⟩ := Prod.mk.inj sent
      exact .inr (.inr ⟨isOpen, other, rfl, rfl⟩)

theorem Recorder.keeps_writes : Sink.Keeps Recorder.writes where
  taken {message r next} sent := by
    rcases send_cases sent with ⟨-, ⟨⟩, -⟩ | ⟨-, -, ⟨⟩, -⟩ | ⟨-, -, -, rfl⟩
    simp [Recorder.writes]
  refused {message cause r next} sent := by
    rcases send_cases sent with ⟨-, -, rfl⟩ | ⟨-, -, -, rfl⟩ | ⟨-, -, ⟨⟩, -⟩
    · rfl
    · rfl

/-- A sink that keeps what it receives has received exactly the messages not refused. -/
theorem Exchange.received_eq {received : σ → List Bytes} (keeps : Sink.Keeps received)
    {sink last : σ} {deliveries : List Delivery} (exchange : Exchange sink deliveries last) :
    received last = received sink ++ Delivery.accepted deliveries := by
  induction exchange with
  | done => simp [Delivery.accepted]
  | taken sent _ ih => simp [ih, keeps.taken sent, Delivery.accepted]
  | refused sent _ ih => simp [ih, keeps.refused sent, Delivery.accepted]

end SeriesWire
