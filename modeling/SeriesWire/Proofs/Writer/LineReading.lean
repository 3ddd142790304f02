import SeriesWire.Proofs.Point.LineBreaks
import SeriesWire.Proofs.Text.Lines
import SeriesWire.Proofs.Writer.Framing

/-! Reading back what a write sent. The lines are found again by their line breaks, exactly if
no text among the fields that count holds one. Texts are the only place where one can be. -/
namespace SeriesWire

namespace Writer

variable {σ : Type} [Sink σ]

end Writer

end SeriesWire
