import Lc3Lint.Text.Ranges
import Lc3Lint.Text.Blank
import Lc3Lint.Text.Printable
import Lc3Lint.Text.Cased
import Lc3Lint.Text.Digit
import Lc3Lint.Text.CaseMap
import Lc3Lint.Text.Quoted
import Lc3Lint.Text.Integer
import Lc3Lint.Text.Utf8
import Lc3Lint.Text.Similarity
import Lc3Lint.Isa.Basic
import Lc3Lint.Isa.Field
import Lc3Lint.Isa.Signature
import Lc3Lint.Numeral
import Lc3Lint.Location
import Lc3Lint.Token
import Lc3Lint.Token.Scan
import Lc3Lint.Diagnostic
import Lc3Lint.Node
import Lc3Lint.Node.OfTokens
import Lc3Lint.Check.Labels
import Lc3Lint.Check.Ranges
import Lc3Lint.Check.Duplicates
import Lc3Lint.Check.Pass
import Lc3Lint.Collector
import Lc3Lint.Config
import Lc3Lint.Session
import Lc3Lint.Cli.Command
import Lc3Lint.Cli.Path
import Lc3Lint.Cli.Run
import Lc3Lint.Main
import Lc3Lint.Proofs.FieldBounds
import Lc3Lint.Proofs.TokenSpans
import Lc3Lint.Proofs.NodePartition
import Lc3Lint.Proofs.NodeShape
import Lc3Lint.Proofs.CheckIndependence
import Lc3Lint.Proofs.Analysis
import Lc3Lint.Proofs.Verdict
import Lc3Lint.Proofs.DiagnosticOrder
import Lc3Lint.Proofs.SourceLines
import Lc3Lint.Proofs.Underline
import Lc3Lint.Proofs.ScanLines
import Lc3Lint.Proofs.LabelResolution
import Lc3Lint.Proofs.LiteralRanges
import Lc3Lint.Proofs.SessionHistory
import Lc3Lint.Proofs.ExitStatus
import Lc3Lint.Proofs.StatementBoundaries
import Lc3Lint.Proofs.Redeclarations
import Lc3Lint.Proofs.ReportLimit
import Lc3Lint.Proofs.PositionalNotation
import Lc3Lint.Proofs.BoundLiterals
import Lc3Lint.Proofs.CollectorState
import Lc3Lint.Proofs.SettingsEnvironment
import Lc3Lint.Proofs.TokenSpelling
