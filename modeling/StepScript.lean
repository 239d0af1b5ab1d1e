import StepScript.Block
import StepScript.Comparator
import StepScript.Dialect
import StepScript.Engine.Basic
import StepScript.Engine.Delivery
import StepScript.Engine.Run
import StepScript.Engine.Session
import StepScript.Engine.Stream
import StepScript.Engine.Trace
import StepScript.Environment
import StepScript.Expression.Diagnosis
import StepScript.Expression.Escape
import StepScript.Expression.Evaluate
import StepScript.Expression.Formatted
import StepScript.Expression.Lexer
import StepScript.Expression.Mistake
import StepScript.Expression.Parser
import StepScript.Expression.Reading
import StepScript.Expression.Token
import StepScript.Expression.Tree
import StepScript.Fault
import StepScript.Json.Basic
import StepScript.Json.Reader
import StepScript.Literal
import StepScript.Number.Arithmetic
import StepScript.Number.Display
import StepScript.Number.Dyadic
import StepScript.Number.Numeral
import StepScript.Number.Shortest
import StepScript.Proofs.Alignment.Block
import StepScript.Proofs.Alignment.Insertion
import StepScript.Proofs.Alignment.Line
import StepScript.Proofs.Alignment.OneLine
import StepScript.Proofs.Alignment.Outermost
import StepScript.Proofs.Alignment.Run
import StepScript.Proofs.Alignment.Step
import StepScript.Proofs.BigStep.Program
import StepScript.Proofs.BigStep.Simulation
import StepScript.Proofs.Block
import StepScript.Proofs.Block.Extent
import StepScript.Proofs.Block.Layout
import StepScript.Proofs.Breakdown
import StepScript.Proofs.Dialect
import StepScript.Proofs.Engine.Cancellation
import StepScript.Proofs.Engine.Delivery
import StepScript.Proofs.Engine.Observation
import StepScript.Proofs.Engine.Stream
import StepScript.Proofs.Environment
import StepScript.Proofs.Expression.Bare
import StepScript.Proofs.Expression.Composition
import StepScript.Proofs.Expression.Derivation
import StepScript.Proofs.Expression.Enclosure
import StepScript.Proofs.Expression.Ender
import StepScript.Proofs.Expression.Evaluation
import StepScript.Proofs.Expression.Grammar
import StepScript.Proofs.Expression.Ladder
import StepScript.Proofs.Expression.Lexing
import StepScript.Proofs.Expression.Naming
import StepScript.Proofs.Expression.Numeral
import StepScript.Proofs.Expression.Parsing
import StepScript.Proofs.Expression.Pieces
import StepScript.Proofs.Expression.Soundness
import StepScript.Proofs.Expression.Whitelist
import StepScript.Proofs.Expression.Yielding
import StepScript.Proofs.Json.Array
import StepScript.Proofs.Json.Numbers
import StepScript.Proofs.Json.RoundTrip
import StepScript.Proofs.Number.Digits
import StepScript.Proofs.Number.Integer
import StepScript.Proofs.Number.Magnitude
import StepScript.Proofs.Padding.Block
import StepScript.Proofs.Padding.Line
import StepScript.Proofs.Padding.Run
import StepScript.Proofs.Padding.Script
import StepScript.Proofs.Padding.Step
import StepScript.Proofs.Run.ArrayView
import StepScript.Proofs.Run.Breakdown
import StepScript.Proofs.Run.Budget
import StepScript.Proofs.Run.Conditional
import StepScript.Proofs.Run.Constancy
import StepScript.Proofs.Run.Continuation
import StepScript.Proofs.Run.Course
import StepScript.Proofs.Run.Failure
import StepScript.Proofs.Run.Highlight
import StepScript.Proofs.Run.Limits
import StepScript.Proofs.Run.Mutation
import StepScript.Proofs.Run.Operation
import StepScript.Proofs.Run.Placement
import StepScript.Proofs.Run.Position
import StepScript.Proofs.Run.Readback
import StepScript.Proofs.Run.Rounds
import StepScript.Proofs.Run.Rule
import StepScript.Proofs.Run.Shape
import StepScript.Proofs.Run.Summation
import StepScript.Proofs.Service.Archive
import StepScript.Proofs.Service.Delivery
import StepScript.Proofs.Service.Request
import StepScript.Proofs.Service.Rows
import StepScript.Proofs.Service.Statistics
import StepScript.Proofs.Session.Coherence
import StepScript.Proofs.Session.History
import StepScript.Proofs.Session.Isolation
import StepScript.Proofs.Statement.Compound
import StepScript.Proofs.Statement.Declaration
import StepScript.Proofs.Statement.Element
import StepScript.Proofs.Statement.Form
import StepScript.Proofs.Statement.Header
import StepScript.Proofs.Statement.Recognition
import StepScript.Proofs.Statement.Stripping
import StepScript.Run.Machine
import StepScript.Run.Report
import StepScript.Run.Snapshot
import StepScript.Run.Step
import StepScript.Sample
import StepScript.Service
import StepScript.Settings
import StepScript.Statement.Basic
import StepScript.Statement.Classify
import StepScript.Statement.Pattern
import StepScript.Store
import StepScript.Text.Basic
import StepScript.Text.CompositionTable
import StepScript.Text.DecompositionTable
import StepScript.Text.Lines
import StepScript.Text.Name
import StepScript.Text.NameTable
import StepScript.Text.PrintableTable
import StepScript.Text.Quoted
import StepScript.Text.Word
import StepScript.Text.WordTable
import StepScript.Value
