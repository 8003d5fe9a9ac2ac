import CouchLoad.CommandLine.Arguments
import CouchLoad.CommandLine.Command
import CouchLoad.CommandLine.Reader
import CouchLoad.Condition.Eval
import CouchLoad.Condition.Expr
import CouchLoad.Condition.Grammar
import CouchLoad.Condition.Lexeme
import CouchLoad.Condition.Lexer
import CouchLoad.Condition.Outline
import CouchLoad.Condition.Parser
import CouchLoad.Condition.Token
import CouchLoad.Condition.Typing
import CouchLoad.Condition.Words
import CouchLoad.Context
import CouchLoad.Couch.BulkResult
import CouchLoad.Couch.Error
import CouchLoad.Couch.Operation
import CouchLoad.Couch.Request
import CouchLoad.Couch.Response
import CouchLoad.Couch.Revision
import CouchLoad.Decimal.Binary
import CouchLoad.Decimal.Shortest
import CouchLoad.Document.Attachment
import CouchLoad.Document.Basic
import CouchLoad.Entropy.Draw
import CouchLoad.Entropy.Source
import CouchLoad.Entropy.Uuid
import CouchLoad.Entropy.Words
import CouchLoad.Files
import CouchLoad.Http.Exchange
import CouchLoad.Http.Reply
import CouchLoad.Json.Basic
import CouchLoad.Json.Numeral
import CouchLoad.Json.Reader
import CouchLoad.Json.Writer
import CouchLoad.Load.Config
import CouchLoad.Load.Conflict
import CouchLoad.Load.Partition
import CouchLoad.Load.ResponseTime
import CouchLoad.Load.Run
import CouchLoad.Load.Samples
import CouchLoad.Load.Stats
import CouchLoad.Load.Summary
import CouchLoad.Load.Worker
import CouchLoad.Log.Event
import CouchLoad.Log.Filter
import CouchLoad.Main
import CouchLoad.Network.Connection
import CouchLoad.Pattern.Basic
import CouchLoad.Pattern.Reader
import CouchLoad.Program.Basic
import CouchLoad.Program.Pool
import CouchLoad.Program.Session
import CouchLoad.Server.Basic
import CouchLoad.Server.Footprint
import CouchLoad.Server.Handle
import CouchLoad.Server.Journal
import CouchLoad.Server.Write
import CouchLoad.Simulation.Losses
import CouchLoad.Simulation.Outages
import CouchLoad.Simulation.World
import CouchLoad.Table
import CouchLoad.Template.Basic
import CouchLoad.Template.Cursor
import CouchLoad.Template.Error
import CouchLoad.Template.Pruning
import CouchLoad.Template.Resolve
import CouchLoad.Template.Scan
import CouchLoad.Template.Segment
import CouchLoad.Text.Alphanumeric
import CouchLoad.Text.Base64
import CouchLoad.Text.Blank
import CouchLoad.Text.Numeral
import CouchLoad.Text.Unprintable
import CouchLoad.Text.Runs
import CouchLoad.Text.Split
import CouchLoad.Text.Utf8
import CouchLoad.Url.Basic
import CouchLoad.Url.Domain.Basic
import CouchLoad.Url.Domain.Composition
import CouchLoad.Url.Domain.Direction
import CouchLoad.Url.Domain.Joining
import CouchLoad.Url.Domain.Mapping
import CouchLoad.Url.Domain.Punycode
import CouchLoad.Url.Host
import CouchLoad.Url.Percent
import CouchLoad.Proofs.Condition.Parsing
import CouchLoad.Proofs.Couch.Reports
import CouchLoad.Proofs.Couch.Revision
import CouchLoad.Proofs.Document.Body
import CouchLoad.Proofs.Program.Interference
import CouchLoad.Proofs.Program.Sessions
import CouchLoad.Proofs.Load.Accounting
import CouchLoad.Proofs.Load.Agreement
import CouchLoad.Proofs.Load.BatchCompletion
import CouchLoad.Proofs.Load.Calls
import CouchLoad.Proofs.Load.FinalState
import CouchLoad.Proofs.Entropy.Coverage
import CouchLoad.Proofs.Entropy.Draws
import CouchLoad.Proofs.Load.Submissions
import CouchLoad.Proofs.Load.Pairing
import CouchLoad.Proofs.Load.Reports
import CouchLoad.Proofs.Load.Sampling
import CouchLoad.Proofs.Load.Reconnects
import CouchLoad.Proofs.Template.Drafts
import CouchLoad.Proofs.Template.Language
import CouchLoad.Proofs.Template.Substitution
import CouchLoad.Proofs.Template.Conditional
import CouchLoad.Proofs.Template.Pruning
import CouchLoad.Proofs.Template.Escapes
import CouchLoad.Proofs.Server.Histories
import CouchLoad.Proofs.Server.Updates
import CouchLoad.Proofs.Server.Footprint
import CouchLoad.Proofs.Server.Retries
import CouchLoad.Proofs.Server.Revisions
import CouchLoad.Proofs.Load.Transparency
import CouchLoad.Proofs.Load.LostAnswers
import CouchLoad.Proofs.Url.Requests
import CouchLoad.Proofs.Load.Nameless
import CouchLoad.Proofs.Load.Injection
import CouchLoad.Proofs.Document.RoundTrip
import CouchLoad.Proofs.Condition.Typing
import CouchLoad.Proofs.Condition.Printing
import CouchLoad.Proofs.Template.Enclosing
import CouchLoad.Proofs.Template.Variables
import CouchLoad.Proofs.Template.Cursor
import CouchLoad.Proofs.Template.Quoting
import CouchLoad.Proofs.Template.FileMarks
