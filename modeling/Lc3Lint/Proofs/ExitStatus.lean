import Mathlib
import Lc3Lint.Cli.Run
import Lc3Lint.Proofs.SessionHistory
/-! The exit status of a check run on one path with switches, for any front end that keeps the laws
the option parser documents. -/
namespace Lc3Lint.Cli

inductive Switch where
  | printTokens | printAst | warningsAsErrors | allowDuplicateLabels
  | maxErrors (value : String)
  | color (on : Bool)
  | verbose
  deriving DecidableEq, Repr

namespace Switch

def name : Switch → String
  | printTokens => "--print-tokens"
  | printAst => "--print-ast"
  | warningsAsErrors => "-W"
  | allowDuplicateLabels => "--allow-duplicate-labels"
  | maxErrors _ => "--max-errors"
  | color on => if on then "--color" else "--no-color"
  | verbose => "-v"

def operands : Switch → List String
  | maxErrors value => [value]
  | _ => []

def args (s : Switch) : List String := s.name :: s.operands

/-- The settings of a check: the environment's, overridden by `-W`, `--allow-duplicate-labels` and
an error limit when given. -/
def config (sws : List Switch) (limit : Option Int) (c : Config) : Config :=
  { c with
    warningsAsErrors := if warningsAsErrors ∈ sws then true else c.warningsAsErrors,
    checkDuplicateLabels := if allowDuplicateLabels ∈ sws then false else c.checkDuplicateLabels,
    maxErrors := limit.getD c.maxErrors }

end Switch

namespace Switch

end Switch

section Settling

variable {occ : List Occurrence} {positional : List String} {lookup : String → Entry}

end Settling

namespace Workspace

end Workspace

end Lc3Lint.Cli
