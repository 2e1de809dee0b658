import ResourceProvider.Dispatch.Compile
import ResourceProvider.Dispatch.Endpoint
import ResourceProvider.Dispatch.Hooks
import ResourceProvider.Dispatch.Plan
import ResourceProvider.Dispatch.Template
import ResourceProvider.Document.Basic
import ResourceProvider.Document.Text
import ResourceProvider.Engine.Access
import ResourceProvider.Engine.Cell
import ResourceProvider.Engine.Change
import ResourceProvider.Engine.Define
import ResourceProvider.Engine.Eval
import ResourceProvider.Engine.Expr
import ResourceProvider.Engine.Parser
import ResourceProvider.Engine.Run
import ResourceProvider.Engine.Select
import ResourceProvider.Engine.Statement
import ResourceProvider.Engine.Table
import ResourceProvider.Engine.Token
import ResourceProvider.Error
import ResourceProvider.Http.Failure
import ResourceProvider.Http.MediaType
import ResourceProvider.Http.Message
import ResourceProvider.Http.Site
import ResourceProvider.Json.Codec
import ResourceProvider.Json.Fault
import ResourceProvider.Json.Printer
import ResourceProvider.Json.Reader
import ResourceProvider.Json.Scan
import ResourceProvider.Json.Value
import ResourceProvider.Lifecycle.Ensure
import ResourceProvider.Lifecycle.Settings
import ResourceProvider.Proofs.Dispatch.Acceptance
import ResourceProvider.Proofs.Dispatch.Codes
import ResourceProvider.Proofs.Dispatch.Compiled
import ResourceProvider.Proofs.Dispatch.Composition
import ResourceProvider.Proofs.Dispatch.Owners
import ResourceProvider.Proofs.Dispatch.Registration
import ResourceProvider.Proofs.Dispatch.Resolution
import ResourceProvider.Proofs.Document.Echo
import ResourceProvider.Proofs.Engine.Binding
import ResourceProvider.Proofs.Engine.Conjunction
import ResourceProvider.Proofs.Engine.Creation
import ResourceProvider.Proofs.Engine.Declared
import ResourceProvider.Proofs.Engine.Deferred
import ResourceProvider.Proofs.Engine.Groups
import ResourceProvider.Proofs.Engine.Insertion
import ResourceProvider.Proofs.Engine.Joined
import ResourceProvider.Proofs.Engine.Kept
import ResourceProvider.Proofs.Engine.Keyed
import ResourceProvider.Proofs.Engine.Keyword
import ResourceProvider.Proofs.Engine.Lexeme
import ResourceProvider.Proofs.Engine.Locality
import ResourceProvider.Proofs.Engine.Naming
import ResourceProvider.Proofs.Engine.Number
import ResourceProvider.Proofs.Engine.Numbered
import ResourceProvider.Proofs.Engine.Pieces
import ResourceProvider.Proofs.Engine.Placeholders
import ResourceProvider.Proofs.Engine.Query
import ResourceProvider.Proofs.Engine.Reading
import ResourceProvider.Proofs.Engine.Refusals
import ResourceProvider.Proofs.Engine.Regular
import ResourceProvider.Proofs.Engine.Restricted
import ResourceProvider.Proofs.Engine.Setting
import ResourceProvider.Proofs.Engine.Settled
import ResourceProvider.Proofs.Engine.Single
import ResourceProvider.Proofs.Engine.Spans
import ResourceProvider.Proofs.Engine.Spelled
import ResourceProvider.Proofs.Engine.Steps
import ResourceProvider.Proofs.Engine.Transaction
import ResourceProvider.Proofs.Engine.Unchanged
import ResourceProvider.Proofs.Engine.Wording
import ResourceProvider.Proofs.Http.Answers
import ResourceProvider.Proofs.Http.Arguments
import ResourceProvider.Proofs.Http.Conflicts
import ResourceProvider.Proofs.Json.Echo
import ResourceProvider.Proofs.Json.Scan
import ResourceProvider.Proofs.Lifecycle.Bare
import ResourceProvider.Proofs.Lifecycle.CreateHook
import ResourceProvider.Proofs.Lifecycle.Creation
import ResourceProvider.Proofs.Lifecycle.Guarded
import ResourceProvider.Proofs.Lifecycle.History
import ResourceProvider.Proofs.Lifecycle.Interleaving
import ResourceProvider.Proofs.Lifecycle.Request
import ResourceProvider.Proofs.Provider.Batch
import ResourceProvider.Proofs.Provider.Bulk
import ResourceProvider.Proofs.Provider.Checked
import ResourceProvider.Proofs.Provider.Counts
import ResourceProvider.Proofs.Provider.Faults
import ResourceProvider.Proofs.Provider.Joined
import ResourceProvider.Proofs.Provider.Located
import ResourceProvider.Proofs.Provider.Narrowing
import ResourceProvider.Proofs.Provider.Overrides
import ResourceProvider.Proofs.Provider.Prepared
import ResourceProvider.Proofs.Provider.Refused
import ResourceProvider.Proofs.Provider.RoundTrip
import ResourceProvider.Proofs.Provider.Signals
import ResourceProvider.Proofs.Provider.Texts
import ResourceProvider.Proofs.Provider.Transaction
import ResourceProvider.Proofs.Provider.Undone
import ResourceProvider.Proofs.Provider.Watching
import ResourceProvider.Proofs.Route.Hidden
import ResourceProvider.Proofs.Route.Matching
import ResourceProvider.Proofs.Route.Path
import ResourceProvider.Proofs.Schema.Acceptance
import ResourceProvider.Proofs.Schema.Columns
import ResourceProvider.Proofs.Schema.Counter
import ResourceProvider.Proofs.Schema.Declaration
import ResourceProvider.Proofs.Schema.Fragments
import ResourceProvider.Proofs.Schema.Legible
import ResourceProvider.Proofs.Schema.Names
import ResourceProvider.Proofs.Sql.Alignment
import ResourceProvider.Proofs.Sql.Building
import ResourceProvider.Proofs.Sql.Conjunction
import ResourceProvider.Proofs.Sql.Decoding
import ResourceProvider.Proofs.Sql.Nesting
import ResourceProvider.Proofs.Sql.State
import ResourceProvider.Proofs.Sql.Storage
import ResourceProvider.Proofs.Text.Unambiguous
import ResourceProvider.Provider.Batch
import ResourceProvider.Provider.BatchText
import ResourceProvider.Provider.Mutation
import ResourceProvider.Provider.Query
import ResourceProvider.Route.Path
import ResourceProvider.Route.Pattern
import ResourceProvider.Route.Table
import ResourceProvider.Schema.Basic
import ResourceProvider.Schema.Identifier
import ResourceProvider.Schema.Resolve
import ResourceProvider.Schema.Statement
import ResourceProvider.Session
import ResourceProvider.Signal.Channel
import ResourceProvider.Sql.Binding
import ResourceProvider.Sql.Record
import ResourceProvider.Sql.Row
import ResourceProvider.Sql.Selection
import ResourceProvider.Sql.Statement
import ResourceProvider.Terms
import ResourceProvider.Text.Blank
import ResourceProvider.Text.Decimal
import ResourceProvider.Text.Hidden
import ResourceProvider.Text.Percent
import ResourceProvider.Text.Quoted
import ResourceProvider.Text.Utf8
