import Script.Binary32
import Script.Binary32.Decimal
import Script.Binary64
import Script.CommandLine
import Script.Diagnostic
import Script.Environment
import Script.Error
import Script.Eval.Basic
import Script.Eval.Rules
import Script.Grammar.Expressions
import Script.Grammar.Parser
import Script.Grammar.Program
import Script.Grammar.Statements
import Script.Grammar.Tape
import Script.Grammar.Types
import Script.Main
import Script.Native.Registry
import Script.Native.Type
import Script.Native.Value
import Script.Number
import Script.Operator
import Script.Piece
import Script.Position
import Script.Program
import Script.Proofs.Agreement
import Script.Proofs.Backtracking
import Script.Proofs.Bindings
import Script.Proofs.Blame
import Script.Proofs.Blocks
import Script.Proofs.Causes
import Script.Proofs.Decimals
import Script.Proofs.Diagnostic
import Script.Proofs.Equality
import Script.Proofs.Faults
import Script.Proofs.Grammar
import Script.Proofs.Grammar.Acceptance
import Script.Proofs.Grammar.Assembly
import Script.Proofs.Grammar.Completeness
import Script.Proofs.Grammar.Leaves
import Script.Proofs.Grammar.Parts
import Script.Proofs.Grammar.Phrases
import Script.Proofs.Grammar.Places
import Script.Proofs.Grammar.Preference
import Script.Proofs.Grammar.Shape
import Script.Proofs.Grammar.Soundness
import Script.Proofs.Grammar.Words
import Script.Proofs.Groupings
import Script.Proofs.Hoisting
import Script.Proofs.Integers
import Script.Proofs.Internals
import Script.Proofs.LineEndings
import Script.Proofs.Lines
import Script.Proofs.Native.Mismatches
import Script.Proofs.Native.Signatures
import Script.Proofs.Native.Types
import Script.Proofs.Origins
import Script.Proofs.Parsing.Closed
import Script.Proofs.Parsing.Moved
import Script.Proofs.Parsing.Orderly
import Script.Proofs.Parsing.Paired
import Script.Proofs.Parsing.Rounds
import Script.Proofs.Parsing.Seam
import Script.Proofs.Parsing.Steady
import Script.Proofs.Parsing.Steps
import Script.Proofs.Parsing.Watched
import Script.Proofs.Positions
import Script.Proofs.Printing.Forms
import Script.Proofs.Printing.Heads
import Script.Proofs.Printing.RoundTrip
import Script.Proofs.Printing.Texts
import Script.Proofs.Recovery
import Script.Proofs.References
import Script.Proofs.Reporting
import Script.Proofs.Rescanning
import Script.Proofs.Scanning
import Script.Proofs.Scanning.Breaks
import Script.Proofs.Scanning.Patterns
import Script.Proofs.Scanning.Pieces
import Script.Proofs.Scanning.Returns
import Script.Proofs.Scanning.Segmentation
import Script.Proofs.Scoping
import Script.Proofs.Sessions
import Script.Proofs.Starts
import Script.Proofs.Templates
import Script.Proofs.Templates.Marks
import Script.Proofs.Templates.Rounds
import Script.Proofs.Termination
import Script.Proofs.Text.Replacing
import Script.Proofs.Traced
import Script.Proofs.Traced.Erasing
import Script.Proofs.Tree.Erasure
import Script.Proofs.Tree.Moving
import Script.Proofs.Tree.Parts
import Script.Proofs.WellScoped
import Script.Proofs.Widening
import Script.Text.Alphabetic
import Script.Text.Digit
import Script.Text.Extending
import Script.Text.Lines
import Script.Text.Quoted
import Script.Text.Ranges
import Script.Text.Reading
import Script.Text.Replace
import Script.Text.Space
import Script.Text.Unprintable
import Script.Token
import Script.Token.Kind
import Script.Token.Scan
import Script.Traced
import Script.Transcript
import Script.Tree
import Script.Tree.Printer
import Script.Value
