import RecordQuery.Calendar.Date
import RecordQuery.Calendar.DateTime
import RecordQuery.Calendar.Reading
import RecordQuery.Calendar.Time
import RecordQuery.Decimal.FloatText
import RecordQuery.Decimal.Shortest
import RecordQuery.Entity.Basic
import RecordQuery.Fault
import RecordQuery.Fields
import RecordQuery.Finder.Basic
import RecordQuery.Finder.Forest
import RecordQuery.Finder.Plan
import RecordQuery.Finder.Related
import RecordQuery.Finder.Run
import RecordQuery.Finder.Step
import RecordQuery.Json.Basic
import RecordQuery.Json.Document
import RecordQuery.Json.Literal
import RecordQuery.Json.Printer
import RecordQuery.Json.Reader
import RecordQuery.Log.Directive
import RecordQuery.Log.Event
import RecordQuery.Log.Field
import RecordQuery.Log.Filter
import RecordQuery.Log.Pattern
import RecordQuery.Object.Type
import RecordQuery.PageStream
import RecordQuery.Query.Basic
import RecordQuery.Query.Dialect
import RecordQuery.Query.Literal
import RecordQuery.Query.Moment
import RecordQuery.Query.Operator
import RecordQuery.Query.Run
import RecordQuery.Query.Select
import RecordQuery.Query.Step
import RecordQuery.Record.Basic
import RecordQuery.Record.Wire
import RecordQuery.Sample.Crm
import RecordQuery.Schema.Basic
import RecordQuery.Schema.Source
import RecordQuery.Session
import RecordQuery.Settings
import RecordQuery.Store
import RecordQuery.Text.Basic
import RecordQuery.Text.Composition
import RecordQuery.Text.Decomposition
import RecordQuery.Text.Letter
import RecordQuery.Text.Mark
import RecordQuery.Text.Visible
import RecordQuery.Value.Basic
import RecordQuery.Value.Read
import RecordQuery.Value.Wire
import RecordQuery.Web.Domain.Basic
import RecordQuery.Web.Domain.Direction
import RecordQuery.Web.Domain.Joining
import RecordQuery.Web.Domain.Mapping
import RecordQuery.Web.Host
import RecordQuery.Web.Path
import RecordQuery.Web.Percent
import RecordQuery.Web.Punycode
import RecordQuery.Web.Url
import RecordQuery.Wire.Page
import RecordQuery.Wire.Response
import RecordQuery.Wire.Script
import RecordQuery.Wire.Transport
import RecordQuery.Proofs.Pages.Basic
import RecordQuery.Proofs.Pages.Calls
import RecordQuery.Proofs.Pages.Drain
import RecordQuery.Proofs.Query.Unsupported
import RecordQuery.Proofs.Query.Segments
import RecordQuery.Proofs.Query.Mistakes
import RecordQuery.Proofs.Fields
import RecordQuery.Proofs.Loading.Basic
import RecordQuery.Proofs.Loading.Fault
import RecordQuery.Proofs.Loading.Junction
import RecordQuery.Proofs.Query.Unsent
import RecordQuery.Proofs.Text.Words
import RecordQuery.Proofs.Query.Literal
import RecordQuery.Proofs.Query.Condition
import RecordQuery.Proofs.Query.Form
import RecordQuery.Proofs.Query.Normal
import RecordQuery.Proofs.Query.Meaning
import RecordQuery.Proofs.Query.Reading
import RecordQuery.Proofs.Pages.Yield
import RecordQuery.Proofs.Loading.Alone
import RecordQuery.Proofs.Loading.Table
import RecordQuery.Proofs.Loading.Closed
import RecordQuery.Proofs.Pages.Delivery
import RecordQuery.Proofs.Retrieval
import RecordQuery.Proofs.Pairs
import RecordQuery.Proofs.Loading.Mistake
import RecordQuery.Proofs.Selection.Widened
import RecordQuery.Proofs.Selection.Plan
import RecordQuery.Proofs.Selection.Columns
import RecordQuery.Proofs.Selection.Paired
import RecordQuery.Proofs.Selection.Alike
import RecordQuery.Proofs.Selection.Answered
import RecordQuery.Proofs.Record.Discard
import RecordQuery.Proofs.Loading.Dealt
import RecordQuery.Proofs.Loading.Calls
import RecordQuery.Proofs.Loading.Permuted
import RecordQuery.Proofs.Loading.Cost
import RecordQuery.Proofs.Steady
import RecordQuery.Proofs.Loading.Order
import RecordQuery.Proofs.Query.Quoted
import RecordQuery.Proofs.Record.Filtered
import RecordQuery.Proofs.Loading.Merged
import RecordQuery.Proofs.Selection.Keys
import RecordQuery.Proofs.Loading.Prefixes
import RecordQuery.Proofs.Loading.Walk
import RecordQuery.Proofs.Listing
import RecordQuery.Proofs.Query.Scalar
import RecordQuery.Proofs.Query.Fitting
import RecordQuery.Proofs.Query.Raw
import RecordQuery.Proofs.Query.Growth
import RecordQuery.Proofs.Query.SameText
import RecordQuery.Proofs.Query.Agreement
import RecordQuery.Proofs.Query.Interchange
import RecordQuery.Proofs.Query.Typed
import RecordQuery.Proofs.Opening
import RecordQuery.Proofs.Record.Numbers
import RecordQuery.Proofs.Decimal.Double
import RecordQuery.Proofs.Value.Same
import RecordQuery.Proofs.Record.Tracking
import RecordQuery.Proofs.Calendar.Instants
import RecordQuery.Proofs.Record.Stable
import RecordQuery.Proofs.Query.Moments
import RecordQuery.Proofs.Loading.Keyless
import RecordQuery.Proofs.Loading.Once
import RecordQuery.Proofs.Conversion
import RecordQuery.Proofs.Composition
import RecordQuery.Proofs.Schema.Memory
import RecordQuery.Proofs.Web.Joined
import RecordQuery.Proofs.Wire.Page
import RecordQuery.Proofs.Wire.Script
