import InspectionHost.Client.ActiveCall
import InspectionHost.Client.Call
import InspectionHost.Client.Client
import InspectionHost.Client.LineReader
import InspectionHost.Command
import InspectionHost.CommandLine.Grammar
import InspectionHost.CommandLine.Invocation
import InspectionHost.CommandLine.Reading
import InspectionHost.Diagnostic
import InspectionHost.DiagnosticChannel
import InspectionHost.Duration
import InspectionHost.Host.Basic
import InspectionHost.Host.Calls
import InspectionHost.Host.Front
import InspectionHost.Host.Program
import InspectionHost.Host.Server
import InspectionHost.Host.World
import InspectionHost.HostError
import InspectionHost.IoError
import InspectionHost.Json.Text
import InspectionHost.Log.ErrorOutput
import InspectionHost.Log.FieldValue
import InspectionHost.Log.Filter
import InspectionHost.Log.Pattern.Basic
import InspectionHost.Log.Pattern.Class
import InspectionHost.Log.Pattern.Reader
import InspectionHost.Log.Record
import InspectionHost.Machine.Environment
import InspectionHost.Machine.FileTree
import InspectionHost.Machine.FirstLine
import InspectionHost.Machine.Launch
import InspectionHost.Machine.Process
import InspectionHost.Machine.ProgramLookup
import InspectionHost.Machine.Script
import InspectionHost.Machine.Shell
import InspectionHost.Main
import InspectionHost.Outcome
import InspectionHost.Server.Handle
import InspectionHost.ServerExit
import InspectionHost.Session.Loop
import InspectionHost.Session.Request
import InspectionHost.Session.Turn
import InspectionHost.Settings
import InspectionHost.Settings.File
import InspectionHost.Settings.Load
import InspectionHost.Sink
import InspectionHost.Text.Blank
import InspectionHost.Text.ByteOffset
import InspectionHost.Text.CodePoints
import InspectionHost.Text.Decimal
import InspectionHost.Text.Hex
import InspectionHost.Text.Letters
import InspectionHost.Text.Quoted
import InspectionHost.Text.Unprintable
import InspectionHost.Text.Utf8
import InspectionHost.Toml.Document
import InspectionHost.Toml.Number
import InspectionHost.Toml.Scan
import InspectionHost.Toml.Table
import InspectionHost.Verdict
import InspectionHost.Proofs.Call.Agreement
import InspectionHost.Proofs.Call.Deadline
import InspectionHost.Proofs.Call.GivingUp
import InspectionHost.Proofs.Call.Lifecycle
import InspectionHost.Proofs.Call.Looks
import InspectionHost.Proofs.Call.Pace
import InspectionHost.Proofs.Call.Report
import InspectionHost.Proofs.Call.Scene
import InspectionHost.Proofs.Call.Standing
import InspectionHost.Proofs.Channel.Delivery
import InspectionHost.Proofs.Client.Lines
import InspectionHost.Proofs.Client.Variables
import InspectionHost.Proofs.CommandLine.Arguments
import InspectionHost.Proofs.CommandLine.Layout
import InspectionHost.Proofs.CommandLine.Levels
import InspectionHost.Proofs.CommandLine.Placement
import InspectionHost.Proofs.CommandLine.Words
import InspectionHost.Proofs.Host.Actions
import InspectionHost.Proofs.Host.Arguments
import InspectionHost.Proofs.Host.Calls
import InspectionHost.Proofs.Host.Commands
import InspectionHost.Proofs.Host.ExitCode
import InspectionHost.Proofs.Host.Frame
import InspectionHost.Proofs.Host.Launch
import InspectionHost.Proofs.Host.Patience
import InspectionHost.Proofs.Host.Replies
import InspectionHost.Proofs.Host.Server
import InspectionHost.Proofs.Host.Shield
import InspectionHost.Proofs.Host.Starts
import InspectionHost.Proofs.Host.Unreadable
import InspectionHost.Proofs.Host.Variables
import InspectionHost.Proofs.Host.Waiting
import InspectionHost.Proofs.Json.Reader
import InspectionHost.Proofs.Json.Recovery
import InspectionHost.Proofs.Machine.Environment
import InspectionHost.Proofs.Machine.Launch
import InspectionHost.Proofs.Machine.Paths
import InspectionHost.Proofs.Outcome.Summary
import InspectionHost.Proofs.Outcome.Verdict
import InspectionHost.Proofs.Overlap.Independence
import InspectionHost.Proofs.Overlap.Scene
import InspectionHost.Proofs.Pipe.Progress
import InspectionHost.Proofs.Pipe.Scene
import InspectionHost.Proofs.Server.Exit
import InspectionHost.Proofs.Server.Observation
import InspectionHost.Proofs.Server.Report
import InspectionHost.Proofs.Server.Scene
import InspectionHost.Proofs.Session.Answers
import InspectionHost.Proofs.Session.Automaton
import InspectionHost.Proofs.Session.Commands
import InspectionHost.Proofs.Session.Framing
import InspectionHost.Proofs.Session.Grammar
import InspectionHost.Proofs.Session.Independence
import InspectionHost.Proofs.Session.Lines
import InspectionHost.Proofs.Session.Scene
import InspectionHost.Proofs.Session.Script
import InspectionHost.Proofs.Session.Transcript
import InspectionHost.Proofs.Session.Unreadable
import InspectionHost.Proofs.Settings.Changes
import InspectionHost.Proofs.Settings.Precedence
import InspectionHost.Proofs.Settings.Timeout
import InspectionHost.Proofs.Text.Decimal
import InspectionHost.Proofs.Text.Lossy
import InspectionHost.Proofs.Text.Table
import InspectionHost.Proofs.Text.Trim
import InspectionHost.Proofs.Text.Utf8
