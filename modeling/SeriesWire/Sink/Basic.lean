import SeriesWire.Octets
import SeriesWire.Notice

/-! Sinks, the receivers of messages. -/
namespace SeriesWire

/-- The end of some work: whether it ended well, what is noted, and the state after it. -/
structure Closing (ε σ : Type) where
  result : Except ε Unit
  notices : List Notice
  state : σ

/-- States of a receiver. A message is taken as a whole or refused, and in both cases
the state may change. -/
class Sink (σ : Type) where
  send : Bytes → σ → Except IoError Unit × σ
  close : σ → Closing IoError σ

end SeriesWire
