import SeriesWire.Octets

/-! Reading lines back. Every line break ends a line, and the rest behind the last one is a
line only if it is not empty. -/
namespace SeriesWire

end SeriesWire
