import RiftScript.Command.Arguments
import RiftScript.Command.Line
import RiftScript.Command.Run
import RiftScript.Datum.Basic
import RiftScript.Datum.Collection
import RiftScript.Datum.Same
import RiftScript.Diagnostic
import RiftScript.Eval.Basic
import RiftScript.Eval.Bindings
import RiftScript.Eval.Failure
import RiftScript.Eval.Machine
import RiftScript.Eval.Operator
import RiftScript.Eval.Registry
import RiftScript.Files.Basic
import RiftScript.Files.Path
import RiftScript.Game.Action
import RiftScript.Game.Bindings
import RiftScript.Game.Host
import RiftScript.Game.State
import RiftScript.Json.Basic
import RiftScript.Json.Read
import RiftScript.Json.Write
import RiftScript.Main
import RiftScript.Notice
import RiftScript.Number.Parts
import RiftScript.Number.Read
import RiftScript.Number.Shortest
import RiftScript.Number.Text
import RiftScript.Proofs.Grammar
import RiftScript.Proofs.Parsing.Steps
import RiftScript.Repl
import RiftScript.Report
import RiftScript.Script
import RiftScript.Session
import RiftScript.Settings
import RiftScript.Sink
import RiftScript.Source
import RiftScript.Text.Blank
import RiftScript.Text.Case
import RiftScript.Text.Digit
import RiftScript.Text.Letter
import RiftScript.Text.Printable
import RiftScript.Text.Quoted
import RiftScript.Text.Ranges
import RiftScript.Token.Basic
import RiftScript.Token.Keyword
import RiftScript.Token.Kind
import RiftScript.Token.Piece
import RiftScript.Token.Scan
import RiftScript.Tree.Basic
import RiftScript.Tree.Json
import RiftScript.Tree.Parser.Basic
import RiftScript.Tree.Parser.Expr
import RiftScript.Tree.Parser.Fault
import RiftScript.Tree.Parser.Recovery
import RiftScript.Tree.Parser.Stmt
import RiftScript.Tree.Parser.Stream
import RiftScript.Tree.Render
import RiftScript.Value
import RiftScript.Yaml.Cursor
import RiftScript.Yaml.Node
import RiftScript.Yaml.Plain
import RiftScript.Yaml.Quoted
import RiftScript.Yaml.Scalar
import RiftScript.Proofs.Parsing.Expressions
import RiftScript.Proofs.Parsing.Statements
import RiftScript.Proofs.Parsing.Programs
import RiftScript.Proofs.Scanning.Pieces
import RiftScript.Proofs.Scanning.Segmentation
import RiftScript.Proofs.Recovery.Refinement
import RiftScript.Proofs.Parsing.Failures
import RiftScript.Proofs.Recovery.Progress
import RiftScript.Proofs.Running.Contracts
import RiftScript.Proofs.Game.Effects
import RiftScript.Proofs.Running.Lockstep
import RiftScript.Proofs.Game.Loops
import RiftScript.Proofs.Game.Faults
import RiftScript.Proofs.Recovery.Braces
import RiftScript.Proofs.Relocation
import RiftScript.Proofs.Running.Simulation
import RiftScript.Proofs.Parsing.Correspondence
import RiftScript.Proofs.Parsing.Layout
import RiftScript.Proofs.Game.Layout
import RiftScript.Proofs.Recovery.Isolation
import RiftScript.Proofs.Running.Order
import RiftScript.Proofs.Scanning.Lexemes
import RiftScript.Proofs.Trees.Scripted
import RiftScript.Proofs.Trees.Words
import RiftScript.Proofs.Trees.JsonText
import RiftScript.Proofs.Trees.Serialization
import RiftScript.Proofs.Trees.Forms
import RiftScript.Proofs.Trees.Rendering
import RiftScript.Proofs.Running.Transcript
import RiftScript.Proofs.Trees.Normal
import RiftScript.Proofs.Running.Normalization
import RiftScript.Proofs.Running.Declarations
import RiftScript.Proofs.Running.Sessions
import RiftScript.Proofs.Running.Notices
import RiftScript.Proofs.Running.Echo
import RiftScript.Proofs.Scanning.Rescanning
import RiftScript.Proofs.Running.Dialogues
import RiftScript.Proofs.Command.Recovering
import RiftScript.Proofs.Scanning.Positions
import RiftScript.Proofs.Scanning.Longest
import RiftScript.Proofs.Scanning.Lines
import RiftScript.Proofs.Parsing.Prefixes
import RiftScript.Proofs.Parsing.Singles
import RiftScript.Proofs.Recovery.Ranges
import RiftScript.Proofs.Running.Events
import RiftScript.Proofs.Game.Blame
import RiftScript.Proofs.Trees.Numerals
import RiftScript.Proofs.Trees.Counting
import RiftScript.Proofs.Trees.Standard
import RiftScript.Proofs.Settings.Paths
import RiftScript.Proofs.Settings.Mappings
import RiftScript.Proofs.Settings.Keys
import RiftScript.Proofs.Settings.Candidates
import RiftScript.Proofs.Settings.Layers
import RiftScript.Proofs.Settings.Sharing
import RiftScript.Proofs.Game.Fields
import RiftScript.Proofs.Cursor.Machine
import RiftScript.Proofs.Cursor.Simulation
import RiftScript.Proofs.Cursor.Safety
