import Proctor.Buffer
import Proctor.Builtin
import Proctor.Capture
import Proctor.Command
import Proctor.Command.Template
import Proctor.Command.Words
import Proctor.CommandLine
import Proctor.CommandLine.Batch
import Proctor.CommandLine.Desk
import Proctor.CommandLine.Form
import Proctor.CommandLine.Inspect
import Proctor.CommandLine.Parameter
import Proctor.CommandLine.Reading
import Proctor.CommandLine.Refusal
import Proctor.CommandLine.Request
import Proctor.CommandLine.Run
import Proctor.CommandLine.Scan
import Proctor.Config
import Proctor.Config.Load
import Proctor.Counterpart
import Proctor.Detection.Locate
import Proctor.Detection.Resolver
import Proctor.Detection.Scope
import Proctor.Detection.Source
import Proctor.Engine
import Proctor.Engine.Attempt
import Proctor.Engine.Course
import Proctor.Engine.Group
import Proctor.Engine.Host
import Proctor.Engine.Task
import Proctor.Engine.World
import Proctor.Error
import Proctor.FileTree
import Proctor.Glob
import Proctor.Job
import Proctor.Job.Call
import Proctor.Journal.Building
import Proctor.Journal.Loading
import Proctor.Journal.Lookup
import Proctor.Layout.Block
import Proctor.Layout.Cut
import Proctor.Layout.Emoji
import Proctor.Layout.Markup
import Proctor.Layout.Markup.Reader
import Proctor.Layout.Wrap
import Proctor.Location
import Proctor.Log
import Proctor.Log.Setup
import Proctor.Log.Written
import Proctor.Machine.Arithmetic
import Proctor.Machine.Format
import Proctor.Machine.Grammar
import Proctor.Machine.Interpreter
import Proctor.Machine.Process
import Proctor.Machine.Script
import Proctor.Machine.Shell
import Proctor.Machine.Token
import Proctor.Machine.Utility
import Proctor.Main
import Proctor.Number.Fixed
import Proctor.Number.Shortest
import Proctor.Path
import Proctor.Pattern
import Proctor.Pattern.Match
import Proctor.Pattern.Parser
import Proctor.Pattern.Syntax
import Proctor.Profile
import Proctor.ProjectRoot
import Proctor.Proofs.Engine.Delivery
import Proctor.Proofs.Engine.Escalation
import Proctor.Proofs.Engine.Life
import Proctor.Proofs.Engine.Outcome
import Proctor.Proofs.Engine.Passing
import Proctor.Proofs.Engine.World
import Proctor.Proofs.Engine.Past
import Proctor.Proofs.Engine.Reaction
import Proctor.Proofs.Engine.Dispatch
import Proctor.Proofs.Engine.Request
import Proctor.Proofs.Engine.Step
import Proctor.Proofs.Job.Lifecycle
import Proctor.Registry
import Proctor.Report
import Proctor.Session
import Proctor.Session.Operation
import Proctor.Target
import Proctor.TestInfo
import Proctor.Text.Blank
import Proctor.Text.Case
import Proctor.Text.Cells
import Proctor.Text.CharName
import Proctor.Text.CharName.Table
import Proctor.Text.CodeSet
import Proctor.Text.Digit
import Proctor.Text.Letter
import Proctor.Text.Line
import Proctor.Text.Quoted
import Proctor.Text.Similar
import Proctor.Text.Utf8
import Proctor.Timeline
import Proctor.Toml.Document
import Proctor.Toml.Scalar
import Proctor.Value
import Proctor.Value.Expanded
import Proctor.Value.Json
import Proctor.Value.Order
import Proctor.Verdict
import Proctor.WorkingDirectory
import Proctor.Proofs.Capture
import Proctor.Proofs.Text.Character
import Proctor.Proofs.Text.Utf8
import Proctor.Proofs.Capture.Chunks
import Proctor.Proofs.Engine.Output
import Proctor.Proofs.Path
import Proctor.Proofs.ProjectRoot
import Proctor.Proofs.WorkingDirectory
import Proctor.Proofs.Detection.Locate
import Proctor.Proofs.Session.Locate
import Proctor.Proofs.Pattern.Match
import Proctor.Proofs.Detection.Declaration
import Proctor.Proofs.Detection.EnclosingClass
import Proctor.Proofs.Session.NodeId
import Proctor.Proofs.Session.Attempt
import Proctor.Proofs.Session.Place
import Proctor.Proofs.Session.Registers
import Proctor.Proofs.Session.Boundary
import Proctor.Proofs.Registry
import Proctor.Proofs.Registry.Order
import Proctor.Proofs.Layout.Markup
import Proctor.Proofs.Location
import Proctor.Proofs.Text.LastPiece
import Proctor.Proofs.Text.Line
import Proctor.Proofs.Text.Numeral
import Proctor.Proofs.Target
import Proctor.Proofs.Buffer
import Proctor.Proofs.Location.RoundTrip
import Proctor.Proofs.Report
import Proctor.Proofs.Engine.Report
import Proctor.Proofs.Session.Profiles
import Proctor.Proofs.Command.Words
import Proctor.Proofs.Text.Words
import Proctor.Proofs.Text.Lower
import Proctor.Proofs.Text.Utf8.Parts
import Proctor.Proofs.Command.Expansion
import Proctor.Proofs.Command.Build
import Proctor.Proofs.CommandLine.Print
import Proctor.Proofs.CommandLine.Reading
import Proctor.Proofs.CommandLine.DryRun
import Proctor.Proofs.CommandLine.Batch
import Proctor.Proofs.Outcome
import Proctor.Proofs.Toml.Unique
import Proctor.Proofs.Detection.Failure
import Proctor.Proofs.Detection.Nest
import Proctor.Proofs.Detection.ModulePath
import Proctor.Proofs.Detection.SuitePath
import Proctor.Proofs.Detection.Surviving
import Proctor.Proofs.Detection.Nameless
import Proctor.Proofs.Detection.Closing
import Proctor.Proofs.Config.Overlay
import Proctor.Proofs.Config.Precedence
import Proctor.Proofs.Config.Failure
import Proctor.Proofs.Config.WellFormed
import Proctor.Proofs.Profile.Fields
import Proctor.Proofs.FileTree
import Proctor.Proofs.ProjectRoot.Nearest
import Proctor.Proofs.Glob
import Proctor.Proofs.Counterpart.Discovery
import Proctor.Proofs.Counterpart.Name
import Proctor.Proofs.Counterpart.Builtin
import Proctor.Proofs.Counterpart.RoundTrip
import Proctor.Proofs.Counterpart.Inverse
import Proctor.Proofs.CommandLine.LogOptions
import Proctor.Proofs.CommandLine.LogSetup
import Proctor.Proofs.Layout.Emoji
import Proctor.Proofs.Layout.Wrap
import Proctor.Proofs.Report.Transcript
