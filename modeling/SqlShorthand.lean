import SqlShorthand.Text.Blank
import SqlShorthand.Text.Search
import SqlShorthand.Text.Ranges
import SqlShorthand.Text.Word
import SqlShorthand.Text.Upper
import SqlShorthand.Text.Quoted
import SqlShorthand.Decimal.Shortest
import SqlShorthand.Decimal.Layout
import SqlShorthand.Decimal.Reader
import SqlShorthand.Digest
import SqlShorthand.Json.Basic
import SqlShorthand.Json.Printer
import SqlShorthand.Json.Reader
import SqlShorthand.Files.Fault
import SqlShorthand.Error
import SqlShorthand.Value
import SqlShorthand.Record
import SqlShorthand.Params
import SqlShorthand.KeyMap
import SqlShorthand.Command.Verb
import SqlShorthand.Command.Basic
import SqlShorthand.Command.Reader
import SqlShorthand.Command.Printer
import SqlShorthand.Literal
import SqlShorthand.Command.Scope
import SqlShorthand.Options
import SqlShorthand.Statement.Shape
import SqlShorthand.Statement.Limit
import SqlShorthand.Statement.Basic
import SqlShorthand.Placeholder
import SqlShorthand.Template
import SqlShorthand.Paging
import SqlShorthand.Files.Tree
import SqlShorthand.Cache.Expiry
import SqlShorthand.Cache.Store
import SqlShorthand.Cache.Basic
import SqlShorthand.Event
import SqlShorthand.Connection
import SqlShorthand.Registry
import SqlShorthand.Session.Gateway
import SqlShorthand.Session.Output
import SqlShorthand.Session.Basic
import SqlShorthand.Session.Exec
import SqlShorthand.Toml.Basic
import SqlShorthand.Toml.Reader
import SqlShorthand.Toml.Dates
import SqlShorthand.Toml.Document
import SqlShorthand.Settings.Fields
import SqlShorthand.Settings.Basic
import SqlShorthand.Settings.Apply
import SqlShorthand.CommandLine.Arguments
import SqlShorthand.CommandLine.Table
import SqlShorthand.CommandLine.Report
import SqlShorthand.CommandLine.Run
import SqlShorthand.Main
import SqlShorthand.Proofs.Text
import SqlShorthand.Proofs.Command.RoundTrip
import SqlShorthand.Proofs.Registry
import SqlShorthand.Proofs.Session.Work
import SqlShorthand.Proofs.Session.Course
import SqlShorthand.Proofs.Session.Surfacing
import SqlShorthand.Proofs.Condition
import SqlShorthand.Proofs.Command.Scope
import SqlShorthand.Proofs.Placeholder
import SqlShorthand.Proofs.Cache.Key
import SqlShorthand.Proofs.Cache.Freshness
import SqlShorthand.Proofs.Session.Caching
import SqlShorthand.Proofs.Session.Frame
import SqlShorthand.Proofs.Session.Refusal
import SqlShorthand.Proofs.Session.Isolation
import SqlShorthand.Proofs.Session.Coherence
import SqlShorthand.Proofs.Literal
import SqlShorthand.Proofs.Placeholder.Settled
import SqlShorthand.Proofs.Placeholder.Parts
import SqlShorthand.Proofs.Command.Grammar
import SqlShorthand.Proofs.Paging.Walk
import SqlShorthand.Proofs.Session.Contact
import SqlShorthand.Proofs.Session.Opening
import SqlShorthand.Proofs.Statement.Keyword
import SqlShorthand.Proofs.Statement.Limit
import SqlShorthand.Proofs.Session.Sending
import SqlShorthand.Proofs.Record
import SqlShorthand.Proofs.Session.RawValues
import SqlShorthand.Proofs.Session.Writes
import SqlShorthand.Proofs.Statement.Written
import SqlShorthand.Proofs.Statement.Update
import SqlShorthand.Proofs.Options
import SqlShorthand.Proofs.Session.Showing
import SqlShorthand.Proofs.Statement.ByHand
import SqlShorthand.Proofs.Session.Log
import SqlShorthand.Proofs.Statement.Insert
import SqlShorthand.Proofs.Registry.Ids
import SqlShorthand.Proofs.Session.Registering
import SqlShorthand.Proofs.Session.RowKeys
import SqlShorthand.Proofs.Session.OneShot
import SqlShorthand.Proofs.Paging.Numbers
import SqlShorthand.Proofs.Session.PagingRuns
import SqlShorthand.Proofs.Text.Search
import SqlShorthand.Proofs.Template
import SqlShorthand.Proofs.Cache.ExpiryText
import SqlShorthand.Proofs.Cache.Runs
import SqlShorthand.Proofs.Cache.Refinement
import SqlShorthand.Proofs.Record.Making
import SqlShorthand.Proofs.Session.Rewording
import SqlShorthand.Proofs.Session.Tokenizing
import SqlShorthand.Proofs.Registry.Clashes
import SqlShorthand.Proofs.Settings.Loading
