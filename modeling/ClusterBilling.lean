import ClusterBilling.Arithmetic
import ClusterBilling.Batch
import ClusterBilling.Cost.Bill
import ClusterBilling.Cost.Breakdown
import ClusterBilling.Cost.Discount
import ClusterBilling.Cost.Rates
import ClusterBilling.Cost.Tally
import ClusterBilling.Decimal.Binary
import ClusterBilling.Decimal.Fixed
import ClusterBilling.Decimal.Layout
import ClusterBilling.Decimal.Nearest
import ClusterBilling.Decimal.Numeral
import ClusterBilling.Decimal.Shortest
import ClusterBilling.Encoding.Base64
import ClusterBilling.Encoding.Basic
import ClusterBilling.Encoding.Charset
import ClusterBilling.Encoding.Chart
import ClusterBilling.Encoding.Chart.Dos
import ClusterBilling.Encoding.Chart.Ebcdic
import ClusterBilling.Encoding.Chart.Iso8859
import ClusterBilling.Encoding.Chart.Mac
import ClusterBilling.Encoding.Chart.Regional
import ClusterBilling.Encoding.Chart.Windows
import ClusterBilling.Encoding.Chinese
import ClusterBilling.Encoding.Compression
import ClusterBilling.Encoding.ContentType
import ClusterBilling.Encoding.Deflate
import ClusterBilling.Encoding.DoubleByte
import ClusterBilling.Encoding.Escapes
import ClusterBilling.Encoding.Grid
import ClusterBilling.Encoding.Grid.Big5
import ClusterBilling.Encoding.Grid.Cp932
import ClusterBilling.Encoding.Grid.Cp950
import ClusterBilling.Encoding.Grid.Gb2312
import ClusterBilling.Encoding.Grid.Gbk
import ClusterBilling.Encoding.Grid.Hkscs
import ClusterBilling.Encoding.Grid.Jisx0208
import ClusterBilling.Encoding.Grid.Jisx0212
import ClusterBilling.Encoding.Grid.Jisx0213
import ClusterBilling.Encoding.Grid.Ksx1001
import ClusterBilling.Encoding.Iso2022
import ClusterBilling.Encoding.Japanese
import ClusterBilling.Encoding.Korean
import ClusterBilling.Encoding.Names
import ClusterBilling.Encoding.Percent
import ClusterBilling.Encoding.Punycode
import ClusterBilling.Encoding.Unencodable
import ClusterBilling.Encoding.Utf7
import ClusterBilling.Encoding.Utf8
import ClusterBilling.Encoding.Wide
import ClusterBilling.Fault
import ClusterBilling.Json.Basic
import ClusterBilling.Json.Bytes
import ClusterBilling.Json.Display
import ClusterBilling.Json.Reader
import ClusterBilling.Json.Writer
import ClusterBilling.Log
import ClusterBilling.Main
import ClusterBilling.Metrics
import ClusterBilling.Program.Basic
import ClusterBilling.Program.CommandLine
import ClusterBilling.Program.LogSettings
import ClusterBilling.Program.Options
import ClusterBilling.Program.Settings
import ClusterBilling.Prometheus.Address
import ClusterBilling.Prometheus.Answer
import ClusterBilling.Prometheus.Client
import ClusterBilling.Prometheus.Headers
import ClusterBilling.Proofs.Batch.Accounting
import ClusterBilling.Proofs.Batch.Dispatch
import ClusterBilling.Proofs.Batch.Message
import ClusterBilling.Proofs.Batch.Order
import ClusterBilling.Proofs.Batch.Progress
import ClusterBilling.Proofs.Batch.Promotion
import ClusterBilling.Proofs.Batch.Records
import ClusterBilling.Proofs.Cost.Attribution
import ClusterBilling.Proofs.Cost.Composition
import ClusterBilling.Proofs.Cost.Conservation
import ClusterBilling.Proofs.Cost.Divisor
import ClusterBilling.Proofs.Cost.Exact
import ClusterBilling.Proofs.Cost.Hours
import ClusterBilling.Proofs.Cost.Isolation
import ClusterBilling.Proofs.Cost.Percent
import ClusterBilling.Proofs.Cost.Rates
import ClusterBilling.Proofs.Cost.Savings
import ClusterBilling.Proofs.Cost.Shares
import ClusterBilling.Proofs.Decimal.Conversion
import ClusterBilling.Proofs.Decimal.Denotation
import ClusterBilling.Proofs.Decimal.Grammar
import ClusterBilling.Proofs.Decimal.Halfway
import ClusterBilling.Proofs.Decimal.Magnitude
import ClusterBilling.Proofs.Decimal.Nearest
import ClusterBilling.Proofs.Decimal.Numeral
import ClusterBilling.Proofs.Decimal.Operations
import ClusterBilling.Proofs.Decimal.Overflow
import ClusterBilling.Proofs.Decimal.Packing
import ClusterBilling.Proofs.Decimal.Quotient
import ClusterBilling.Proofs.Decimal.Readings
import ClusterBilling.Proofs.Decimal.Rounding
import ClusterBilling.Proofs.Decimal.Seconds
import ClusterBilling.Proofs.Decimal.Shortest
import ClusterBilling.Proofs.Decimal.Significant
import ClusterBilling.Proofs.Encoding.Inflation
import ClusterBilling.Proofs.Encoding.Refusals
import ClusterBilling.Proofs.Json.Display
import ClusterBilling.Proofs.Json.Decoded
import ClusterBilling.Proofs.Json.Grammar
import ClusterBilling.Proofs.Json.Number
import ClusterBilling.Proofs.Json.RoundTrip
import ClusterBilling.Proofs.Json.Strings
import ClusterBilling.Proofs.Json.Validity
import ClusterBilling.Proofs.Program.Acceptance
import ClusterBilling.Proofs.Program.Completion
import ClusterBilling.Proofs.Program.Printing
import ClusterBilling.Proofs.Prometheus.Breakage
import ClusterBilling.Proofs.Prometheus.Listing
import ClusterBilling.Proofs.Prometheus.Reading
import ClusterBilling.Proofs.Prometheus.Replies
import ClusterBilling.Proofs.Prometheus.Wording
import ClusterBilling.Proofs.Query.Catalog
import ClusterBilling.Proofs.Query.Template
import ClusterBilling.Proofs.Report.Agreement
import ClusterBilling.Proofs.Report.ClusterRates
import ClusterBilling.Proofs.Report.Degradation
import ClusterBilling.Proofs.Report.DiscountScope
import ClusterBilling.Proofs.Report.Documents
import ClusterBilling.Proofs.Report.Failures
import ClusterBilling.Proofs.Report.Inquiry
import ClusterBilling.Proofs.Report.OverTime
import ClusterBilling.Proofs.Report.Refusal
import ClusterBilling.Proofs.Report.Sampling
import ClusterBilling.Proofs.Report.Sending
import ClusterBilling.Proofs.Table
import ClusterBilling.Proofs.Text
import ClusterBilling.Proofs.Text.Lines
import ClusterBilling.Proofs.Time.Calendar
import ClusterBilling.Proofs.Time.Duration
import ClusterBilling.Proofs.Time.Fields
import ClusterBilling.Proofs.Time.Timestamp
import ClusterBilling.Proofs.Time.Total
import ClusterBilling.Proofs.Time.WholeSeconds
import ClusterBilling.Proofs.Time.Window
import ClusterBilling.Query.Basic
import ClusterBilling.Query.Catalog
import ClusterBilling.Query.Template
import ClusterBilling.Report.Basic
import ClusterBilling.Report.Document
import ClusterBilling.Report.Inquiry
import ClusterBilling.Series
import ClusterBilling.Table
import ClusterBilling.Text.Basic
import ClusterBilling.Text.Blank
import ClusterBilling.Text.Digit
import ClusterBilling.Text.Name
import ClusterBilling.Text.Name.Alphabets
import ClusterBilling.Text.Name.Ancient
import ClusterBilling.Text.Name.Further
import ClusterBilling.Text.Name.Notations
import ClusterBilling.Text.Name.Pictographs
import ClusterBilling.Text.Name.Syllables
import ClusterBilling.Text.Name.Symbols
import ClusterBilling.Text.Name.Table
import ClusterBilling.Text.Printable
import ClusterBilling.Text.Quoted
import ClusterBilling.Time.Calendar
import ClusterBilling.Time.Duration
import ClusterBilling.Time.Iso
import ClusterBilling.Time.Moment
import ClusterBilling.Time.RangeError
import ClusterBilling.Time.Timestamp
import ClusterBilling.Time.Window
