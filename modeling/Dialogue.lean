import Dialogue.Artifact.Search
import Dialogue.Child.Basic
import Dialogue.Child.Reader
import Dialogue.CommandLine.Option
import Dialogue.CommandLine.Reply
import Dialogue.CommandLine.Request
import Dialogue.Difference.Compaction
import Dialogue.Difference.Edit
import Dialogue.Difference.Hunk
import Dialogue.Difference.Search
import Dialogue.Duration
import Dialogue.Expression.Automaton
import Dialogue.Expression.Basic
import Dialogue.Expression.Reading
import Dialogue.Expression.Search
import Dialogue.Failure
import Dialogue.Fault
import Dialogue.FileTree.Basic
import Dialogue.FileTree.Lookup
import Dialogue.LineEditor.Editor
import Dialogue.LineEditor.Escape
import Dialogue.LineEditor.Reading
import Dialogue.LineEditor.Running
import Dialogue.LineEditor.Script
import Dialogue.LineEditor.Start
import Dialogue.LineEditor.Substitution
import Dialogue.Machine.Loading
import Dialogue.Machine.Observed
import Dialogue.Machine.Process
import Dialogue.Machine.Program
import Dialogue.Machine.SearchPath
import Dialogue.Machine.Signal
import Dialogue.Machine.Standard
import Dialogue.Machine.Turn
import Dialogue.Machine.World
import Dialogue.Main
import Dialogue.Number.Binary64
import Dialogue.Number.Floating
import Dialogue.Number.Layout
import Dialogue.Number.Shortest
import Dialogue.Number.Whole
import Dialogue.Path.Basic
import Dialogue.Peer.Basic
import Dialogue.Peer.Canned
import Dialogue.Peer.Recorded
import Dialogue.Proofs.Artifact.Locating
import Dialogue.Proofs.Artifact.Referring
import Dialogue.Proofs.Artifact.Searching
import Dialogue.Proofs.Child.History
import Dialogue.Proofs.Child.Lifetime
import Dialogue.Proofs.Child.Receiving
import Dialogue.Proofs.Child.Tracing
import Dialogue.Proofs.CommandLine.Arranging
import Dialogue.Proofs.CommandLine.Limiting
import Dialogue.Proofs.Number.Measuring
import Dialogue.Proofs.Number.Rounding
import Dialogue.Proofs.Path.Components
import Dialogue.Proofs.Play.Accounting
import Dialogue.Proofs.Play.Adequacy
import Dialogue.Proofs.Play.AfterWait
import Dialogue.Proofs.Play.Answered
import Dialogue.Proofs.Play.CallOrder
import Dialogue.Proofs.Play.Delivering
import Dialogue.Proofs.Play.Draining
import Dialogue.Proofs.Play.ExitCode
import Dialogue.Proofs.Play.HollowChunks
import Dialogue.Proofs.Play.Justification
import Dialogue.Proofs.Play.Outcome
import Dialogue.Proofs.Play.Parts
import Dialogue.Proofs.Play.Promptness
import Dialogue.Proofs.Play.Rationing
import Dialogue.Proofs.Play.Record
import Dialogue.Proofs.Play.Reporting
import Dialogue.Proofs.Play.Rules
import Dialogue.Proofs.Play.StreamsApart
import Dialogue.Proofs.Play.Transcript
import Dialogue.Proofs.Play.Wording
import Dialogue.Proofs.Run.Choosing
import Dialogue.Proofs.Run.Framing
import Dialogue.Proofs.Run.Phases
import Dialogue.Proofs.Scenario.Drafting
import Dialogue.Proofs.Scenario.Grouping
import Dialogue.Proofs.Scenario.Joining
import Dialogue.Proofs.Scenario.Layout
import Dialogue.Proofs.Scenario.Lines
import Dialogue.Proofs.Scenario.Playing
import Dialogue.Proofs.Scenario.Refusing
import Dialogue.Proofs.Scenario.WellFormed
import Dialogue.Proofs.Scenario.Writing
import Dialogue.Proofs.Session.Logging
import Dialogue.Proofs.Session.Queueing
import Dialogue.Proofs.Text.Decoding
import Dialogue.Proofs.Text.Quoting
import Dialogue.Proofs.Text.Showing
import Dialogue.Proofs.Text.Splitting
import Dialogue.Run.Basic
import Dialogue.Run.Setup
import Dialogue.Scenario.Basic
import Dialogue.Scenario.Reading
import Dialogue.Session.Basic
import Dialogue.Session.Play
import Dialogue.Session.Verdict
import Dialogue.Settings
import Dialogue.Shell.Activity
import Dialogue.Shell.Arithmetic
import Dialogue.Shell.Builtin.Directory
import Dialogue.Shell.Builtin.Known
import Dialogue.Shell.Builtin.Letters
import Dialogue.Shell.Builtin.Limit
import Dialogue.Shell.Builtin.Name
import Dialogue.Shell.Builtin.Print
import Dialogue.Shell.Builtin.Process
import Dialogue.Shell.Builtin.Read
import Dialogue.Shell.Expansion
import Dialogue.Shell.Fields
import Dialogue.Shell.Interpreter
import Dialogue.Shell.Names
import Dialogue.Shell.Options
import Dialogue.Shell.Pattern
import Dialogue.Shell.Reading
import Dialogue.Shell.Redirect
import Dialogue.Shell.Run
import Dialogue.Shell.Source
import Dialogue.Shell.State
import Dialogue.Shell.Syntax
import Dialogue.Shell.Token
import Dialogue.Shell.WordReading
import Dialogue.Text.Latin
import Dialogue.Text.Line
import Dialogue.Text.Octets
import Dialogue.Text.Unprintable
import Dialogue.Tool.Beginning
import Dialogue.Tool.Condition
import Dialogue.Tool.Copy
import Dialogue.Tool.Count
import Dialogue.Tool.Environment
import Dialogue.Tool.Options
import Dialogue.Tool.Print
import Dialogue.Tool.Quoting
import Dialogue.Tool.Simple
import Dialogue.Tool.Size
import Dialogue.Tool.Stream
