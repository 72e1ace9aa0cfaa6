import LiveIni.Main
import LiveIni.Scopes
import LiveIni.Proofs.Computation
import LiveIni.Proofs.Restriction.Lockstep
import LiveIni.Proofs.Restriction.Evaluation
import LiveIni.Proofs.Restriction.Trial
import LiveIni.Proofs.Pipeline.Settling
import LiveIni.Proofs.Pipeline.Reading
import LiveIni.Proofs.Pipeline.Renewal
import LiveIni.Proofs.Restriction.Verdict
import LiveIni.Proofs.Pipeline.CallsKept
import LiveIni.Proofs.Session.Calls
import LiveIni.Proofs.Text.Breaks
import LiveIni.Proofs.Text.Cutting
import LiveIni.Proofs.Document.Tables
import LiveIni.Proofs.Document.Numbering
import LiveIni.Proofs.Document.Entries
import LiveIni.Proofs.Document.Sections
import LiveIni.Proofs.Document.Building
import LiveIni.Proofs.Document.Equality
import LiveIni.Proofs.Document.Legibility
import LiveIni.Proofs.Document.Writing
import LiveIni.Proofs.Pipeline.Storing
import LiveIni.Proofs.Pipeline.Resolution
import LiveIni.Proofs.Pipeline.RoundTrip
import LiveIni.Proofs.Document.Additions
import LiveIni.Proofs.Document.BuilderHistory
import LiveIni.Proofs.Document.Placement
import LiveIni.Proofs.Pipeline.Accounting
import LiveIni.Proofs.Pipeline.Appending
import LiveIni.Proofs.Text.Visible
import LiveIni.Proofs.Document.Marks
import LiveIni.Proofs.Pipeline.Expansion
import LiveIni.Proofs.Document.Rows
import LiveIni.Proofs.Pipeline.Loggers
import LiveIni.Proofs.Session.Loggers
import LiveIni.Proofs.Files.Contents
import LiveIni.Proofs.Pipeline.Dumping
import LiveIni.Proofs.Inference.Fitting
import LiveIni.Proofs.Substitution.Inert
import LiveIni.Proofs.Pipeline.Rereading
import LiveIni.Proofs.Number.Decimal
import LiveIni.Proofs.Literal.Grammar
import LiveIni.Proofs.Literal.Reading
import LiveIni.Proofs.Literal.Value
import LiveIni.Proofs.Inference.Exactness
import LiveIni.Proofs.Number.DecimalRounding
import LiveIni.Proofs.Inference.FixedDecimals
import LiveIni.Proofs.Literal.Normalization
import LiveIni.Proofs.Inference.Outcome
import LiveIni.Proofs.Inference.RenderedDecimals
import LiveIni.Proofs.Pipeline.DigitLimit
import LiveIni.Proofs.Document.CommentNames
import LiveIni.Proofs.Literal.Groups
import LiveIni.Proofs.Literal.Characters
import LiveIni.Proofs.Literal.Localized
import LiveIni.Proofs.Inference.Localized
import LiveIni.Proofs.Expression.Nesting
import LiveIni.Proofs.Expression.Numerals
import LiveIni.Proofs.Expression.Outcome
import LiveIni.Proofs.Substitution.Searching
import LiveIni.Proofs.Substitution.Lexemes
import LiveIni.Proofs.Substitution.Segments
import LiveIni.Proofs.Substitution.Expressions
import LiveIni.Proofs.Expression.Invariants
import LiveIni.Proofs.Expression.TextLength
import LiveIni.Proofs.Value.Operators
import LiveIni.Proofs.Expression.Constants
import LiveIni.Proofs.Substitution.Escapes
import LiveIni.Proofs.Document.Flattening
import LiveIni.Proofs.Pipeline.Flattening
import LiveIni.Proofs.Inference.RenderedValues
import LiveIni.Proofs.Expression.SideBySide
import LiveIni.Proofs.Substitution.Strictness
import LiveIni.Proofs.Document.Requirements
import LiveIni.Proofs.CommandLine.Validation
import LiveIni.Proofs.Number.Double
import LiveIni.Proofs.Inference.RenderedIntegers
import LiveIni.Proofs.Number.DecimalContexts
import LiveIni.Proofs.Inference.Signals
import LiveIni.Proofs.Inference.Kinds
import LiveIni.Proofs.Text.LineEnds
import LiveIni.Proofs.Pipeline.LineEnds
import LiveIni.Proofs.Encoding.Utf8
import LiveIni.Proofs.Pipeline.AppendedFiles
import LiveIni.Proofs.Files.Paths
import LiveIni.Proofs.Log.Calls
import LiveIni.Proofs.Log.Delivery
import LiveIni.Proofs.Literal.Places
import LiveIni.Proofs.Number.DoubleForms
import LiveIni.Proofs.Inference.Forms
import LiveIni.Proofs.Document.Exports
import LiveIni.Proofs.Pipeline.Exports
