import RestQuery.Connection.Config
import RestQuery.Connection.Document
import RestQuery.Connection.Settings
import RestQuery.Error
import RestQuery.Filter.Basic
import RestQuery.Filter.Criterion
import RestQuery.Filter.Operator
import RestQuery.Filter.Reading
import RestQuery.Filter.Writing
import RestQuery.Http.ContentRange
import RestQuery.Http.Headers
import RestQuery.Http.Message
import RestQuery.Http.Method
import RestQuery.Json.Basic
import RestQuery.Json.Document
import RestQuery.Json.Number
import RestQuery.Json.Reading
import RestQuery.Json.Token
import RestQuery.Number.Binary64
import RestQuery.Number.Literal
import RestQuery.Number.Notation
import RestQuery.Number.Power
import RestQuery.Number.Rounding
import RestQuery.Number.Shortest
import RestQuery.Proofs.Filter.Conditions
import RestQuery.Proofs.Filter.Confinement
import RestQuery.Proofs.Filter.Folding
import RestQuery.Proofs.Filter.Operands
import RestQuery.Proofs.Filter.RoundTrip
import RestQuery.Proofs.Json.Documents
import RestQuery.Proofs.Json.Integers
import RestQuery.Proofs.Json.Tokens
import RestQuery.Proofs.Query.Carrying
import RestQuery.Proofs.Query.Decoding
import RestQuery.Proofs.Query.HeaderNames
import RestQuery.Proofs.Query.Parameters
import RestQuery.Proofs.Record.Bodies
import RestQuery.Proofs.Sequence
import RestQuery.Proofs.Session.Exchange
import RestQuery.Proofs.Session.Interleaving
import RestQuery.Proofs.Session.Outcomes
import RestQuery.Proofs.Session.Parameters
import RestQuery.Proofs.SortedMap
import RestQuery.Proofs.Text.Commas
import RestQuery.Proofs.Text.Cutting
import RestQuery.Proofs.Text.Nesting
import RestQuery.Proofs.Text.Pieces
import RestQuery.Proofs.Text.Quoting
import RestQuery.Proofs.Text.Whole
import RestQuery.Query.Assembly
import RestQuery.Query.Encoding
import RestQuery.Query.Ordering
import RestQuery.Query.Preferences
import RestQuery.Query.Refinement
import RestQuery.Query.State
import RestQuery.Record.Basic
import RestQuery.Record.Body
import RestQuery.Record.Catalog
import RestQuery.Record.Declaration
import RestQuery.Session.Basic
import RestQuery.Session.Call
import RestQuery.Session.Client
import RestQuery.Session.Table
import RestQuery.SortedMap
import RestQuery.Text.Blank
import RestQuery.Text.Cut
import RestQuery.Text.Quoted
import RestQuery.Text.TopLevel
import RestQuery.Text.Visible
import RestQuery.Text.Whole
import RestQuery.Toml.Basic
import RestQuery.Toml.Document
import RestQuery.Toml.Draft
import RestQuery.Toml.Timestamp
import RestQuery.Toml.Token
import RestQuery.Proofs.Filter.Standalone
import RestQuery.Proofs.Number.Nearest
import RestQuery.Proofs.Number.Shortest
import RestQuery.Proofs.Number.Notation
import RestQuery.Proofs.Filter.Scalars
import RestQuery.Proofs.Json.Reals
import RestQuery.Proofs.Filter.Rereading
import RestQuery.Proofs.Filter.Rewriting
import RestQuery.Proofs.Session.Preview
import RestQuery.Proofs.Session.Reordering
import RestQuery.Proofs.Session.SingleRecord
import RestQuery.Proofs.Failures
import RestQuery.Proofs.Filter.Trees
import RestQuery.Proofs.Filter.Acceptance
import RestQuery.Proofs.Filter.Negation
import RestQuery.Proofs.Filter.Stability
import RestQuery.Proofs.Filter.Restoring
import RestQuery.Proofs.Filter.StableConditions
import RestQuery.Proofs.Filter.Reparsing
import RestQuery.Proofs.Filter.Soundness
import RestQuery.Proofs.Filter.BareTexts
import RestQuery.Proofs.Session.Refusals
import RestQuery.Proofs.Session.Schemes
import RestQuery.Proofs.Http.ContentRange
import RestQuery.Proofs.Http.Merging
import RestQuery.Proofs.Query.OrderParams
import RestQuery.Proofs.Record.Declarations
import RestQuery.Proofs.Connection.ApiKeys
import RestQuery.Proofs.Session.CallHeaders
import RestQuery.Proofs.Session.ProcedureNames
import RestQuery.Proofs.Session.ReplyHeaders
