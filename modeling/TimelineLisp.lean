import TimelineLisp.Arity
import TimelineLisp.CommandLine.Folder
import TimelineLisp.CommandLine.Request
import TimelineLisp.CommandLine.Run
import TimelineLisp.Evaluation.Basic
import TimelineLisp.Evaluation.Fault
import TimelineLisp.Evaluation.Outcome
import TimelineLisp.Evaluation.SpecialForm
import TimelineLisp.Evaluation.Step
import TimelineLisp.Form.Basic
import TimelineLisp.Form.Printer
import TimelineLisp.Form.Reader
import TimelineLisp.Inspect.Data
import TimelineLisp.Inspect.Sketch
import TimelineLisp.Levels
import TimelineLisp.Main
import TimelineLisp.Native.Apply
import TimelineLisp.Native.Basic
import TimelineLisp.Number.Literal
import TimelineLisp.Number.Rounding
import TimelineLisp.Number.Timebase
import TimelineLisp.Proofs.Evaluation.Growth
import TimelineLisp.Proofs.Evaluation.Completion
import TimelineLisp.Proofs.Evaluation.Direct
import TimelineLisp.Proofs.Evaluation.Refinement
import TimelineLisp.Proofs.Form.Lines
import TimelineLisp.Proofs.Form.Machine
import TimelineLisp.Proofs.Form.RoundTrip
import TimelineLisp.Proofs.Number.Written
import TimelineLisp.Proofs.Session.Lines
import TimelineLisp.Proofs.Session.Submission
import TimelineLisp.Proofs.Token.Newline
import TimelineLisp.Proofs.Token.Shift
import TimelineLisp.Proofs.Token.Written
import TimelineLisp.Script
import TimelineLisp.Session.Basic
import TimelineLisp.Session.Style
import TimelineLisp.Store.Basic
import TimelineLisp.Store.Standard
import TimelineLisp.Text.Blank
import TimelineLisp.Text.CodeRange
import TimelineLisp.Text.Hidden
import TimelineLisp.Text.Letter
import TimelineLisp.Text.Mark
import TimelineLisp.Text.Numeral
import TimelineLisp.Text.Position
import TimelineLisp.Text.Quoted
import TimelineLisp.Token.Basic
import TimelineLisp.Token.Cursor
import TimelineLisp.Token.Piece
import TimelineLisp.Token.Trivia
import TimelineLisp.Value.Basic
import TimelineLisp.Value.Printer
import TimelineLisp.Proofs.Native.Related
import TimelineLisp.Proofs.Evaluation.Simulation
import TimelineLisp.Proofs.Evaluation.BreakOff
import TimelineLisp.Proofs.Evaluation.Reached
import TimelineLisp.Proofs.Evaluation.Lockstep
import TimelineLisp.Proofs.Session.Interpretation
import TimelineLisp.Proofs.Session.States
import TimelineLisp.Proofs.Value.ReadBack
import TimelineLisp.Proofs.Evaluation.Unmentioned
import TimelineLisp.Proofs.Form.Pull
import TimelineLisp.Proofs.Script.Order
import TimelineLisp.Proofs.Form.Grammar
import TimelineLisp.Proofs.Form.Acceptance
import TimelineLisp.Proofs.Token.CutOff
import TimelineLisp.Proofs.Session.Continuation
import TimelineLisp.Proofs.Evaluation.Depth
import TimelineLisp.Proofs.Evaluation.Footprint
import TimelineLisp.Proofs.Store.Renaming
import TimelineLisp.Proofs.Evaluation.Repetition
import TimelineLisp.Proofs.Token.Gap
import TimelineLisp.Proofs.Token.Lexeme
import TimelineLisp.Proofs.Token.Partition
import TimelineLisp.Proofs.Token.Spacing
import TimelineLisp.Proofs.Form.Formatting
import TimelineLisp.Proofs.Token.CutToken
import TimelineLisp.Proofs.Token.Truncation
import TimelineLisp.Proofs.Store.Chain
import TimelineLisp.Proofs.Evaluation.Rules
import TimelineLisp.Proofs.Evaluation.Recursion
import TimelineLisp.Proofs.Evaluation.Parameters
import TimelineLisp.Proofs.Evaluation.Sequencing
import TimelineLisp.Proofs.Evaluation.Application
import TimelineLisp.Proofs.Number.Grammar
import TimelineLisp.Proofs.Token.Atom
import TimelineLisp.Proofs.Number.Conversion
import TimelineLisp.Proofs.Native.Arithmetic
import TimelineLisp.Proofs.Native.Faults
import TimelineLisp.Proofs.Evaluation.Arities
import TimelineLisp.Proofs.Levels.History
import TimelineLisp.Proofs.Native.Levels
