import SeriesWire.Address.Grammar
import SeriesWire.Address.HostName
import SeriesWire.Address.Ip
import SeriesWire.Address.Numeric
import SeriesWire.Address.Resolve
import SeriesWire.Batch
import SeriesWire.Binary64
import SeriesWire.ByteSize
import SeriesWire.Client.Basic
import SeriesWire.Client.Error
import SeriesWire.Client.Query
import SeriesWire.ClientConfig.Basic
import SeriesWire.ClientConfig.Yaml
import SeriesWire.Decimal.Digits
import SeriesWire.Decimal.FloatText
import SeriesWire.Decimal.Reading
import SeriesWire.Decimal.Shortest
import SeriesWire.Duration
import SeriesWire.Escape
import SeriesWire.FieldSet
import SeriesWire.FieldValue
import SeriesWire.IoError
import SeriesWire.KeyTable
import SeriesWire.LineRecord
import SeriesWire.Notice
import SeriesWire.Octets
import SeriesWire.Point.Basic
import SeriesWire.Point.Build
import SeriesWire.Point.Error
import SeriesWire.Point.Round
import SeriesWire.Point.Split
import SeriesWire.Precision
import SeriesWire.Proofs.Address.Reader
import SeriesWire.Proofs.Address.Resolving
import SeriesWire.Proofs.Address.Socket
import SeriesWire.Proofs.Batch.Calls
import SeriesWire.Proofs.Binary64.Nearest
import SeriesWire.Proofs.Client.LifeCycle
import SeriesWire.Proofs.Client.Session
import SeriesWire.Proofs.ClientConfig.Settings
import SeriesWire.Proofs.Decimal.Digits
import SeriesWire.Proofs.Decimal.FloatText
import SeriesWire.Proofs.Decimal.Numeral
import SeriesWire.Proofs.Decimal.Reading
import SeriesWire.Proofs.Escape
import SeriesWire.Proofs.Escape.Reversal
import SeriesWire.Proofs.FieldSet.Division
import SeriesWire.Proofs.FieldSet.Reading
import SeriesWire.Proofs.FieldSet.Slices
import SeriesWire.Proofs.FieldValue
import SeriesWire.Proofs.Grouping
import SeriesWire.Proofs.KeyTable.LastEntries
import SeriesWire.Proofs.KeyTable.LastValues
import SeriesWire.Proofs.Point.CanonicalForm
import SeriesWire.Proofs.Point.Display
import SeriesWire.Proofs.Point.Division
import SeriesWire.Proofs.Point.Faults
import SeriesWire.Proofs.Point.FewestPieces
import SeriesWire.Proofs.Point.Identity
import SeriesWire.Proofs.Point.KeyEnd
import SeriesWire.Proofs.Point.Line
import SeriesWire.Proofs.Point.LineBreaks
import SeriesWire.Proofs.Point.NearestMultiple
import SeriesWire.Proofs.Point.Reachable
import SeriesWire.Proofs.Point.Representation
import SeriesWire.Proofs.Point.Rounding
import SeriesWire.Proofs.Point.SeriesKey
import SeriesWire.Proofs.Point.Source
import SeriesWire.Proofs.Point.Words
import SeriesWire.Proofs.Sink.Exchange
import SeriesWire.Proofs.Sink.Recorder
import SeriesWire.Proofs.Text.Decoding
import SeriesWire.Proofs.Text.Lines
import SeriesWire.Proofs.Text.LowerCase
import SeriesWire.Proofs.Text.OctetOrder
import SeriesWire.Proofs.Text.Run
import SeriesWire.Proofs.Text.Utf8
import SeriesWire.Proofs.Writer.FewestMessages
import SeriesWire.Proofs.Writer.Framing
import SeriesWire.Proofs.Writer.Isolation
import SeriesWire.Proofs.Writer.LineReading
import SeriesWire.Proofs.Writer.Packing
import SeriesWire.Proofs.Writer.PayloadBound
import SeriesWire.Proofs.Writer.Pieces
import SeriesWire.Proofs.Writer.Precision
import SeriesWire.Proofs.Writer.Refusals
import SeriesWire.Proofs.Writer.Resending
import SeriesWire.Proofs.Writer.Sending
import SeriesWire.Proofs.Writer.TimeOrder
import SeriesWire.Proofs.Writer.TwoPhases
import SeriesWire.Proofs.Writer.Words
import SeriesWire.Sink.Basic
import SeriesWire.Sink.Dial
import SeriesWire.Sink.Recorder
import SeriesWire.Sink.Stream
import SeriesWire.Text.Blank
import SeriesWire.Text.CodeRanges
import SeriesWire.Text.Cut
import SeriesWire.Text.Digit
import SeriesWire.Text.Letter
import SeriesWire.Text.LowerCase
import SeriesWire.Text.Quoted
import SeriesWire.Text.Unprintable
import SeriesWire.Text.Utf8
import SeriesWire.Width
import SeriesWire.Writer.Basic
import SeriesWire.Writer.Buffer
import SeriesWire.Writer.Sending
import SeriesWire.Yaml
