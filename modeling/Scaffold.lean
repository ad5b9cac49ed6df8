import Scaffold.Cli.Command
import Scaffold.Cli.Grammar
import Scaffold.Cli.Places
import Scaffold.Cli.Reading
import Scaffold.Cli.Run
import Scaffold.Config.Llm
import Scaffold.Config.Load
import Scaffold.Config.Settings
import Scaffold.Decimal.Nearest
import Scaffold.Decimal.Number
import Scaffold.Decimal.Reading
import Scaffold.Decimal.Shortest
import Scaffold.Failure
import Scaffold.Fallback
import Scaffold.Generation.Content
import Scaffold.Generation.Requester
import Scaffold.Generation.Run
import Scaffold.Glob
import Scaffold.Json.Failure
import Scaffold.Json.Printer
import Scaffold.Json.Reader
import Scaffold.Json.Value
import Scaffold.Library.Entry
import Scaffold.Library.Store
import Scaffold.Library.Timestamp
import Scaffold.Log.Console
import Scaffold.Log.Record
import Scaffold.Main
import Scaffold.Orchestration.Bench
import Scaffold.Orchestration.Materialize
import Scaffold.Orchestration.Planning
import Scaffold.Orchestration.PromptRun
import Scaffold.Plan.Item
import Scaffold.Plan.Path
import Scaffold.Plan.Prompt
import Scaffold.Provider.Desk
import Scaffold.Provider.Registry
import Scaffold.Provider.Runner
import Scaffold.Provider.Transport
import Scaffold.Reply.Basic
import Scaffold.Reply.Extract
import Scaffold.Service.Answer
import Scaffold.Service.Fault
import Scaffold.Service.Handle
import Scaffold.Service.Integer
import Scaffold.Service.Payload
import Scaffold.Service.Reading
import Scaffold.Template.Fill
import Scaffold.Template.Grammar
import Scaffold.Template.Scan
import Scaffold.Template.Token
import Scaffold.Text.Blank
import Scaffold.Text.Bytes
import Scaffold.Text.Case
import Scaffold.Text.Digit
import Scaffold.Text.Printable
import Scaffold.Text.Quoted
import Scaffold.Text.Split
import Scaffold.Text.Wide
import Scaffold.Text.Word
import Scaffold.Workspace.Changes
import Scaffold.Workspace.FileSystem
import Scaffold.Workspace.Listing
import Scaffold.Workspace.Location
import Scaffold.Workspace.Resolve
import Scaffold.Workspace.Text
import Scaffold.Workspace.Tree
import Scaffold.Yaml.Document
import Scaffold.Yaml.Fault
import Scaffold.Yaml.Lexer
import Scaffold.Yaml.Load
import Scaffold.Yaml.Node
import Scaffold.Yaml.Place
import Scaffold.Yaml.Plain
import Scaffold.Yaml.Property
import Scaffold.Yaml.Scalar
import Scaffold.Yaml.ScalarValue
import Scaffold.Yaml.Token
import Scaffold.Yaml.Value
import Scaffold.Proofs.Text.Blank
import Scaffold.Proofs.Text.Split
import Scaffold.Proofs.Template.Grammar
import Scaffold.Proofs.Template.Scan
import Scaffold.Proofs.Template.Passes
import Scaffold.Proofs.Template.Written
import Scaffold.Proofs.Template.Unopened
import Scaffold.Proofs.Template.Weave
import Scaffold.Proofs.Template.Resolve
import Scaffold.Proofs.Generation.Recorded
import Scaffold.Proofs.Generation.Run
import Scaffold.Proofs.Workspace.Confine
import Scaffold.Proofs.Workspace.Frame
import Scaffold.Proofs.Workspace.Walk
import Scaffold.Proofs.Workspace.Resolved
import Scaffold.Proofs.Workspace.Calls
import Scaffold.Proofs.Generation.Kept
import Scaffold.Proofs.Orchestration.Kept
import Scaffold.Proofs.Generation.Local
import Scaffold.Proofs.Orchestration.Materialize
import Scaffold.Proofs.Sequence
import Scaffold.Proofs.Plan.Path
import Scaffold.Proofs.Plan.Canonical
import Scaffold.Proofs.Plan.Listing
import Scaffold.Proofs.Provider.Closed
import Scaffold.Proofs.Reply.Extract
import Scaffold.Proofs.Plan.Item
import Scaffold.Proofs.Failure
import Scaffold.Proofs.Config.Load
import Scaffold.Proofs.Provider.Runner
import Scaffold.Proofs.Orchestration.Steps
import Scaffold.Proofs.Orchestration.Planning
import Scaffold.Proofs.Generation.Failing
import Scaffold.Proofs.Orchestration.PromptRun
import Scaffold.Proofs.Library.Entry
import Scaffold.Proofs.Library.Call
import Scaffold.Proofs.Library.Table
import Scaffold.Proofs.Provider.Registry
import Scaffold.Proofs.Orchestration.Consistent
import Scaffold.Proofs.Library.Edits
import Scaffold.Proofs.Template.Declared
import Scaffold.Proofs.Workspace.Linkless
import Scaffold.Proofs.Generation.Again
import Scaffold.Proofs.Config.Carried
import Scaffold.Proofs.Orchestration.Preview
import Scaffold.Proofs.Cli.Plan
import Scaffold.Proofs.Reply.Code
import Scaffold.Proofs.Template.Joined
import Scaffold.Proofs.Template.Replaced
import Scaffold.Proofs.Generation.Unwrapped
import Scaffold.Proofs.Template.Collected
import Scaffold.Proofs.Glob
import Scaffold.Proofs.Workspace.Listing
import Scaffold.Proofs.Workspace.Listed
import Scaffold.Proofs.Workspace.Added
import Scaffold.Proofs.Orchestration.Made
import Scaffold.Proofs.Cli.Delete
import Scaffold.Proofs.Fallback
import Scaffold.Proofs.Config.Ending
import Scaffold.Proofs.Workspace.Outline
import Scaffold.Proofs.Config.Home
import Scaffold.Proofs.Library.Search
import Scaffold.Proofs.Library.Opened
import Scaffold.Proofs.Service.Selection
import Scaffold.Proofs.Library.Shared
