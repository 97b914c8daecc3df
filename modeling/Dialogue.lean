import Dialogue.Behaviour
import Dialogue.Channel.Basic
import Dialogue.Channel.Chatter
import Dialogue.Channel.Deviation
import Dialogue.Channel.Progress
import Dialogue.Child.Basic
import Dialogue.Child.Timeline
import Dialogue.CommandLine
import Dialogue.Config.Basic
import Dialogue.Config.File
import Dialogue.Config.Value
import Dialogue.Console
import Dialogue.Discovery
import Dialogue.Display
import Dialogue.Executable
import Dialogue.External
import Dialogue.Fault
import Dialogue.Files.Changes
import Dialogue.Files.Host
import Dialogue.Files.Path
import Dialogue.Files.Tree
import Dialogue.Json.Value
import Dialogue.Machine.Basic
import Dialogue.Machine.Builtin.Basic
import Dialogue.Machine.Builtin.Flow
import Dialogue.Machine.Builtin.Names
import Dialogue.Machine.Builtin.Signals
import Dialogue.Machine.Builtin.Variables
import Dialogue.Machine.Job
import Dialogue.Machine.Process
import Dialogue.Machine.Run
import Dialogue.Machine.Signal
import Dialogue.Machine.Step
import Dialogue.Machine.Stream
import Dialogue.Main
import Dialogue.Pattern.Braces
import Dialogue.Pattern.Glob
import Dialogue.Peer
import Dialogue.Program
import Dialogue.Proofs.Channel.Chatter
import Dialogue.Proofs.Channel.InStep
import Dialogue.Proofs.Channel.Left
import Dialogue.Proofs.Channel.LineBreak
import Dialogue.Proofs.Channel.Order
import Dialogue.Proofs.Channel.Position
import Dialogue.Proofs.Channel.Request
import Dialogue.Proofs.Channel.Sticky
import Dialogue.Proofs.Console.Buffering
import Dialogue.Proofs.Console.HeldBack
import Dialogue.Proofs.Console.Lines
import Dialogue.Proofs.Console.Output
import Dialogue.Proofs.Console.Refused
import Dialogue.Proofs.Console.Remarks
import Dialogue.Proofs.Console.Request
import Dialogue.Proofs.Console.Returns
import Dialogue.Proofs.Console.Transcript
import Dialogue.Proofs.Console.Writes
import Dialogue.Proofs.Files.Entry
import Dialogue.Proofs.Files.Tree
import Dialogue.Proofs.Files.Walk
import Dialogue.Proofs.Peer.Conversation
import Dialogue.Proofs.Peer.InTurn
import Dialogue.Proofs.Peer.Incomplete
import Dialogue.Proofs.Peer.Passed
import Dialogue.Proofs.Run.Conforming
import Dialogue.Proofs.Run.Faithful
import Dialogue.Proofs.Run.HandedOut
import Dialogue.Proofs.Run.Logs
import Dialogue.Proofs.Run.Passable
import Dialogue.Proofs.Run.Returns
import Dialogue.Proofs.Run.Schedule
import Dialogue.Proofs.Run.Splitting
import Dialogue.Proofs.Run.Verdict
import Dialogue.Proofs.Script.Block
import Dialogue.Proofs.Script.Expectation
import Dialogue.Proofs.Script.Grammar
import Dialogue.Proofs.Script.Line
import Dialogue.Proofs.Script.Parse
import Dialogue.Proofs.Script.Readable
import Dialogue.Proofs.Script.Rendering
import Dialogue.Proofs.Script.Rereading
import Dialogue.Proofs.Script.RoundTrip
import Dialogue.Proofs.Speaker.Child
import Dialogue.Proofs.Speaker.Console
import Dialogue.Proofs.Speaker.InProcess
import Dialogue.Proofs.Speaker.Line
import Dialogue.Proofs.Speaker.Stage
import Dialogue.Proofs.Speaker.Verdict
import Dialogue.Proofs.Text.Breaks
import Dialogue.Proofs.Text.Lines
import Dialogue.Proofs.Text.Lossy
import Dialogue.Proofs.Text.LowerCase
import Dialogue.Proofs.Text.Returns
import Dialogue.Proofs.Text.Sheds
import Dialogue.Proofs.Text.Utf8
import Dialogue.Regex.Basic
import Dialogue.Regex.Class
import Dialogue.Regex.Parser
import Dialogue.Registry
import Dialogue.Run.Basic
import Dialogue.Run.Log
import Dialogue.Run.Record
import Dialogue.Run.Report
import Dialogue.Run.Schedule
import Dialogue.Run.Worker
import Dialogue.Script.Basic
import Dialogue.Script.Parser
import Dialogue.Script.Printer
import Dialogue.Script.Step
import Dialogue.Session
import Dialogue.Setup
import Dialogue.Shell.Arithmetic
import Dialogue.Shell.Command
import Dialogue.Shell.Condition
import Dialogue.Shell.Expansion
import Dialogue.Shell.Fields
import Dialogue.Shell.Format
import Dialogue.Shell.Options
import Dialogue.Shell.Parser
import Dialogue.Shell.Pattern
import Dialogue.Shell.State
import Dialogue.Shell.Token
import Dialogue.Text.Basic
import Dialogue.Text.Blank
import Dialogue.Text.Bytes
import Dialogue.Text.Duration
import Dialogue.Text.Fraction
import Dialogue.Text.LowerCase
import Dialogue.Text.Quoted
import Dialogue.Text.Ranges
import Dialogue.Text.Real
import Dialogue.Text.Utf8
import Dialogue.Tool.Awk.Parser
import Dialogue.Tool.Awk.Program
import Dialogue.Tool.Awk.Run
import Dialogue.Tool.Awk.State
import Dialogue.Tool.Awk.Token
import Dialogue.Tool.Awk.Value
import Dialogue.Tool.Characters
import Dialogue.Tool.Columns
import Dialogue.Tool.Files
import Dialogue.Tool.Grep
import Dialogue.Tool.Input
import Dialogue.Tool.Ordering
import Dialogue.Tool.Passing
import Dialogue.Tool.Printing
import Dialogue.Tool.Reckoning
import Dialogue.Tool.Running
import Dialogue.Tool.Sed.Edit
import Dialogue.Tool.Sed.Script
import Dialogue.Tool.Switches
import Dialogue.Tool.Table
import Dialogue.Tool.Work
import Dialogue.Yaml.Document
import Dialogue.Yaml.Event
import Dialogue.Yaml.Printer
import Dialogue.Yaml.Scalar
import Dialogue.Yaml.Token.Basic
import Dialogue.Yaml.Token.Cursor
import Dialogue.Yaml.Token.Scalar
import Dialogue.Yaml.Token.Stream
import Dialogue.Yaml.Value
import Dialogue.Proofs.Script.LineEndings
import Dialogue.Proofs.Speaker.Echo
import Dialogue.Proofs.Files.Components
import Dialogue.Proofs.Files.Discovery
import Dialogue.Proofs.Files.Contents
import Dialogue.Proofs.Session.Parts
import Dialogue.Proofs.Session.SetupFailure
import Dialogue.Proofs.Pattern.Expansion
import Dialogue.Proofs.Config.Field
import Dialogue.Proofs.Config.Reading
import Dialogue.Proofs.Yaml.Equality
import Dialogue.Proofs.Yaml.Mapping
import Dialogue.Proofs.Config.Saving
import Dialogue.Proofs.Json.Reading
import Dialogue.Proofs.Session.Summary
import Dialogue.Proofs.Files.Absolute
import Dialogue.Proofs.Files.Remains
import Dialogue.Proofs.Config.Finding
import Dialogue.Proofs.Session.Saving
