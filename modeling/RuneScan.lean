import RuneScan.Utf8.Pattern
import RuneScan.Utf8.Decode
import RuneScan.Utf8.Segment
import RuneScan.Unicode.Class
import RuneScan.Text.Lossy
import RuneScan.Text.Quoted
import RuneScan.Position
import RuneScan.History
import RuneScan.Lexeme
import RuneScan.Fault
import RuneScan.Trace
import RuneScan.Sizing
import RuneScan.Source
import RuneScan.Source.Piecewise
import RuneScan.Window
import RuneScan.Window.Views
import RuneScan.Intake
import RuneScan.RuneSet
import RuneScan.RuneTest
import RuneScan.Reader.Basic
import RuneScan.Reader.Accept
import RuneScan.Reader.Search
import RuneScan.Reader.Iterate
import RuneScan.Lexer.Basic
import RuneScan.Lexer.Snippet
import RuneScan.Lexer.Listing
import RuneScan.Command
import RuneScan.Main
import RuneScan.Proofs.Utf8.Seam
import RuneScan.Proofs.Source.Stream
import RuneScan.Proofs.Intake.Filling
import RuneScan.Proofs.History
import RuneScan.Proofs.Reader.Invariant
import RuneScan.Proofs.Reader.Steps
import RuneScan.Proofs.Reader.Moves
import RuneScan.Proofs.Reader.Operations
import RuneScan.Proofs.Reader.Lexemes
import RuneScan.Proofs.StreamLaw
import RuneScan.Proofs.Chunking
import RuneScan.Proofs.Conservation
import RuneScan.Proofs.Reader.Literals
import RuneScan.Proofs.Search
import RuneScan.Proofs.Reader.Layout
import RuneScan.Proofs.Demand
import RuneScan.Proofs.WindowSafety
import RuneScan.Proofs.UndoStack
import RuneScan.Proofs.Replay
import RuneScan.Proofs.PositionLaw
import RuneScan.Proofs.Capacity
import RuneScan.Proofs.SlideCost
import RuneScan.Proofs.ReadDiscipline
import RuneScan.Proofs.Reader.Calls
import RuneScan.Proofs.AllOrNothing
import RuneScan.Proofs.FirstOccurrence
import RuneScan.Proofs.Reader.Runs
import RuneScan.Proofs.Lexer.Progress
import RuneScan.Proofs.Coverage
import RuneScan.Proofs.Reader.Steady
import RuneScan.Proofs.Lexer.Rules
import RuneScan.Proofs.Lexer.Spans
import RuneScan.Proofs.Text.Escapes
import RuneScan.Proofs.SnippetTokens
import RuneScan.Proofs.Recovery
import RuneScan.Proofs.Utf8.Exactness
import RuneScan.Proofs.LongestRun
import RuneScan.Proofs.Reader.SameMoves
import RuneScan.Proofs.Reader.ReadsAhead
import RuneScan.Proofs.Lookahead
import RuneScan.Proofs.Text.Substitution
import RuneScan.Proofs.Utf8.Decisions
import RuneScan.Proofs.ListingOutput
