import SeriesWire.Point.Basic
import SeriesWire.Proofs.FieldSet.Division
import SeriesWire.Proofs.FieldValue
import SeriesWire.Proofs.Text.Run

/-! The end of a line. Read from behind, octets of no meaning of their own come first, and the
mark before them tells whether they are a time: before a time stands a space, and before the
last value of the fields an equals sign or its own quote. -/
namespace SeriesWire

theorem Timestamp.not_mem_marks (time : Timestamp) : ∀ b ∈ time.encode, b ∉ Octet.marks :=
  Utf8.not_mem_marks Decimal.not_mem_markChars_of_mem_integer

theorem Timestamp.encode_injective {first second : Timestamp}
    (same : first.encode = second.encode) : first = second :=
  Int64.toInt_inj.mp (Decimal.integer_injective (Utf8.encodeChars_injective same))

namespace Point

variable {p q : Point} {fields fieldsToo : List Field}

end Point

end SeriesWire
