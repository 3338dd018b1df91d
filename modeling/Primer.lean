import Primer.Branch
import Primer.Check.Action
import Primer.Check.Expr
import Primer.Check.Stmt
import Primer.Command.Answer
import Primer.Command.Basic
import Primer.Console
import Primer.Diagnostic.Basic
import Primer.Diagnostic.Problem
import Primer.Diagnostic.Report
import Primer.Failure
import Primer.Identifier
import Primer.Json.Basic
import Primer.Json.Printer
import Primer.Json.Reader
import Primer.Literal
import Primer.Main
import Primer.Numeric.Arithmetic
import Primer.Numeric.Binary64
import Primer.Numeric.Decimal
import Primer.Numeric.Render
import Primer.Numeric.Shortest
import Primer.Operator
import Primer.Proofs.Acting
import Primer.Proofs.ActionNames
import Primer.Proofs.Actions
import Primer.Proofs.AnnotationSafety
import Primer.Proofs.Annotations
import Primer.Proofs.ArrayLiterals
import Primer.Proofs.ArrayTexts
import Primer.Proofs.Bindings
import Primer.Proofs.Checking
import Primer.Proofs.Choices
import Primer.Proofs.Coercions
import Primer.Proofs.ConsoleSafety
import Primer.Proofs.Consoles
import Primer.Proofs.Contents
import Primer.Proofs.Decimals
import Primer.Proofs.DeclarationSafety
import Primer.Proofs.Decoding
import Primer.Proofs.Discipline
import Primer.Proofs.DisplayLiterals
import Primer.Proofs.Encoding
import Primer.Proofs.Ends
import Primer.Proofs.Ensures
import Primer.Proofs.Equality
import Primer.Proofs.ErasedEvaluation
import Primer.Proofs.Erasure
import Primer.Proofs.Evaluation
import Primer.Proofs.Events
import Primer.Proofs.Exactness
import Primer.Proofs.FailureLines
import Primer.Proofs.FailureSafety
import Primer.Proofs.Footprints
import Primer.Proofs.Frameless
import Primer.Proofs.Frames
import Primer.Proofs.InputSafety
import Primer.Proofs.Inspections
import Primer.Proofs.JsonText
import Primer.Proofs.JumpSafety
import Primer.Proofs.Jumps
import Primer.Proofs.Landing
import Primer.Proofs.Laws
import Primer.Proofs.Lines
import Primer.Proofs.LiteralAgreement
import Primer.Proofs.LiteralForms
import Primer.Proofs.LiteralValues
import Primer.Proofs.Lockstep
import Primer.Proofs.LoopForms
import Primer.Proofs.Mirroring
import Primer.Proofs.Moves
import Primer.Proofs.NameSafety
import Primer.Proofs.Names
import Primer.Proofs.Naming
import Primer.Proofs.NumberOrder
import Primer.Proofs.NumberTexts
import Primer.Proofs.NumberValues
import Primer.Proofs.Operands
import Primer.Proofs.OperatorProblems
import Primer.Proofs.Parts
import Primer.Proofs.Paths
import Primer.Proofs.Plans
import Primer.Proofs.Positions
import Primer.Proofs.Reads
import Primer.Proofs.Redundancy
import Primer.Proofs.Remarks
import Primer.Proofs.ReportLines
import Primer.Proofs.Reports
import Primer.Proofs.Retention
import Primer.Proofs.Rounding
import Primer.Proofs.Rounds
import Primer.Proofs.ScopeHistories
import Primer.Proofs.ScopeSafety
import Primer.Proofs.ScopeStacks
import Primer.Proofs.Scoping
import Primer.Proofs.Shapes
import Primer.Proofs.StandardInput
import Primer.Proofs.StoreSafety
import Primer.Proofs.Storing
import Primer.Proofs.Tracing
import Primer.Proofs.TruthValues
import Primer.Proofs.TypeSafety
import Primer.Proofs.TypedLists
import Primer.Proofs.Types
import Primer.Proofs.Typing
import Primer.Proofs.TypingRules
import Primer.Proofs.Watching
import Primer.Proofs.WriteForms
import Primer.Proofs.WriteSafety
import Primer.Proofs.Writes
import Primer.Run.Action
import Primer.Run.Eval
import Primer.Run.Exec
import Primer.Scope
import Primer.Store
import Primer.Syntax
import Primer.Syntax.Build
import Primer.Syntax.Decode
import Primer.Syntax.Encode
import Primer.Syntax.Names
import Primer.Syntax.Outline
import Primer.Text.Alphabetic
import Primer.Text.Blank
import Primer.Text.CaseTable
import Primer.Text.Lowercase
import Primer.Text.Numeral
import Primer.Text.Printable
import Primer.Text.Quoted
import Primer.Text.Ranges
import Primer.Ty
import Primer.Value.Array
import Primer.Value.Basic
import Primer.Value.Convert
import Primer.Value.Operate
