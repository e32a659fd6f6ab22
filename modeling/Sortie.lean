import Sortie.Text.Blank
import Sortie.Text.Case
import Sortie.Text.Search
import Sortie.Text.Utf8
import Sortie.Decimal.Reading
import Sortie.Json.Number
import Sortie.Budget
import Sortie.Verdict
import Sortie.Scenario.Catalogue
import Sortie.Conversation
import Sortie.Instructions
import Sortie.Operator
import Sortie.SyntaxRepair
import Sortie.Judge
import Sortie.Solver.Request
import Sortie.Solver.Outcome
import Sortie.Solver.Reply
import Sortie.Solver.Command
import Sortie.Record.Writer
import Sortie.Record.Reader
import Sortie.Session.Mission
import Sortie.Session.Progress
import Sortie.Session.Event
import Sortie.Session.Basic
import Sortie.Session.World
import Sortie.Session.Result
import Sortie.Toml.Basic
import Sortie.Toml.Text
import Sortie.Toml.Scalar
import Sortie.Toml.Table
import Sortie.Toml.Reader
import Sortie.Text.Letter
import Sortie.Yaml.Cursor
import Sortie.Yaml.Scalar
import Sortie.Yaml.Token
import Sortie.Yaml.Lexer
import Sortie.Yaml.Basic
import Sortie.Yaml.Reader
import Sortie.Files
import Sortie.Settings.Basic
import Sortie.Settings.Tree
import Sortie.Settings.Path
import Sortie.Settings.Ini
import Sortie.Settings.Json5
import Sortie.Settings.Ron
import Sortie.Settings.Document
import Sortie.Settings.Reader
import Sortie.Settings.Load
import Sortie.Model.Echo
import Sortie.Model.Usage
import Sortie.Model.Chat
import Sortie.Model.Choice
import Sortie.Settings.Assembly
import Sortie.Program.Host
import Sortie.Program.Exit
import Sortie.Program.Fly
import Sortie.Program.Bench
import Sortie.Text.Lines
import Sortie.Rehearsal.Script
import Sortie.Rehearsal.Folder
import Sortie.Rehearsal.Shell.Basic
import Sortie.Rehearsal.Playback
import Sortie.Rehearsal.Shell.Word
import Sortie.Rehearsal.Shell.Token
import Sortie.Rehearsal.Shell.Script
import Sortie.Rehearsal.Shell.Printing
import Sortie.Rehearsal.Shell.Program
import Sortie.Rehearsal.Shell.Execution
import Sortie.Rehearsal.PlayedSolver
import Sortie.Rehearsal.Stage
import Sortie.Main
import Sortie.Proofs.Verdict
import Sortie.Proofs.Session.Moves
import Sortie.Proofs.Session.Runs
import Sortie.Proofs.Session.Calls
import Sortie.Proofs.Session.Legs
import Sortie.Proofs.Session.Checks
import Sortie.Proofs.Session.Specifications
import Sortie.Proofs.Session.Bounds
import Sortie.Proofs.Geometry
import Sortie.Proofs.Session.Endings
import Sortie.Proofs.Session.Recovery
import Sortie.Proofs.Session.Feedback
import Sortie.Proofs.Session.InputEnd
import Sortie.Proofs.Session.Messages
import Sortie.Proofs.Session.Accounts
import Sortie.Proofs.Extraction
import Sortie.Proofs.Session.Transcript
import Sortie.Proofs.Session.Judging
import Sortie.Proofs.Session.Junctions
import Sortie.Proofs.Session.Echoes
import Sortie.Proofs.Settings
import Sortie.Proofs.Session.Completion
import Sortie.Proofs.Bench
import Sortie.Proofs.Session.OperatorLines
import Sortie.Proofs.Missing
import Sortie.Proofs.Evidence
import Sortie.Proofs.Session.Repairing
import Sortie.Proofs.Violations
import Sortie.Proofs.ByteOrder
import Sortie.Proofs.Scenarios
import Sortie.Proofs.Rounding
import Sortie.Proofs.Solver
import Sortie.Proofs.Json
import Sortie.Proofs.Decimals
import Sortie.Proofs.Trajectories
import Sortie.Proofs.Replacing
import Sortie.Proofs.Templates
import Sortie.Proofs.Session.DryRuns
