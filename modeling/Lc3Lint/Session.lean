import Lc3Lint.Token.Scan
import Lc3Lint.Node.OfTokens
import Lc3Lint.Check.Pass
import Lc3Lint.Collector
import Lc3Lint.Config
/-! An analysis session: each analysis scans its text, groups it into statements and runs the enabled
checks once each; the session then answers for that analysis. -/
namespace Lc3Lint

def Config.passes (c : Config) : List Pass :=
  (if c.checkLabels then [.labels] else []) ++ (if c.checkRanges then [.ranges] else []) ++
    (if c.checkDuplicateLabels then [.duplicates] else [])

def Config.collector (c : Config) : Collector :=
  { maxErrors := c.maxErrors, warningsAsErrors := c.warningsAsErrors }

def Pass.runAll : List Pass → List Node → Except AnalysisAbort (List Node × List (Pass × Nat))
  | [], ns => .ok (ns, [])
  | p :: ps, ns => do
    let (ns', count) ← p.run ns
    let (final, counts) ← Pass.runAll ps ns'
    return (final, (p, count) :: counts)

/-- Runs checks in order until one aborts: the statements as the checks leave them at that point,
and each check that finished with its count. -/
def Pass.interrupted : List Pass → List Node → List Node × List (Pass × Nat)
  | [], ns => (ns, [])
  | p :: ps, ns =>
    match p.run ns with
    | .ok (ns', count) =>
      let (left, counts) := Pass.interrupted ps ns'
      (left, (p, count) :: counts)
    | .error _ => (p.leftOnAbort ns, [])

def Pass.steps : List Pass → List Node → Except AnalysisAbort (List (Pass × Nat × List Node))
  | [], _ => .ok []
  | p :: ps, ns => do
    let (ns', count) ← p.run ns
    return (p, count, ns') :: (← Pass.steps ps ns')

structure Session where
  config : Config := {}
  source : String := ""
  file : String := "<input>"
  tokens : List Token := []
  nodes : List Node := []
  collector : Collector := {}
  progress : List String := []
  deriving Repr

namespace Session

def start (c : Config) : Session := { config := c, collector := c.collector }

structure Aborted where
  abort : AnalysisAbort
  left : Session

/-- Analyzes a source text named `file`. A check that aborts aborts the analysis after the text, its
tokens and its statements have replaced the earlier ones, beside the earlier collector. -/
def analyze (s : Session) (source file : String) : Except Aborted Session := do
  let tokens := Token.scan source file
  let parsed := Node.ofTokens tokens
  let passes := s.config.passes
  let opening := [s!"Tokenized {file}: {tokens.length} tokens",
    s!"Parsed {parsed.length} nodes from {tokens.length} tokens"]
  let (nodes, counts) ← (Pass.runAll passes parsed).mapError fun abort =>
    let (left, finished) := Pass.interrupted passes parsed
    ⟨abort, { s with source, file, tokens, nodes := left,
                     progress := opening ++ finished.map fun (p, count) => p.progress parsed count }⟩
  let collector := s.config.collector.extend (nodes.flatMap (·.diagnostics))
  let checkLines := counts.map fun (p, count) => p.progress parsed count
  return { s with source, file, tokens, nodes, collector,
                  progress := opening ++ checkLines ++ [s!"Analyzed {file}: {collector.summary}"] }

def lines (s : Session) : List String := s.source.splitOn "\n"

def diagnostics (s : Session) : List Diagnostic :=
  (s.nodes.flatMap (·.diagnostics)).mergeSort fun a b => a.start.atOrBefore b.start

def report (s : Session) (style : SeverityStyle := .plain) : String :=
  s.collector.report (some s.lines) style

def summary (s : Session) : String := s.collector.summary

def hasErrors (s : Session) : Bool := s.collector.hasErrors

def hasWarnings (s : Session) : Bool := s.collector.warningCount > 0

def errorCount (s : Session) : Nat := s.collector.errorCount

def warningCount (s : Session) : Nat := s.collector.warningCount

def failure? (s : Session) : Option CheckFailure := s.collector.failure? (some s.lines)

end Session

end Lc3Lint
