import Lc3Lint.Check.Labels
import Lc3Lint.Check.Ranges
import Lc3Lint.Check.Duplicates
/-! The checks as values, so that a run can name them, and the progress line each writes. -/
namespace Lc3Lint

inductive Pass where
  | labels | ranges | duplicates
  deriving DecidableEq, Repr

namespace Pass

def run : Pass → List Node → Except AnalysisAbort (List Node × Nat)
  | labels, ns => .ok (resolveLabels ns)
  | ranges, ns => checkLiteralRanges ns
  | duplicates, ns => .ok (checkDuplicateLabels ns)

/-- The statements as a check leaves them when it aborts. Only the literal check aborts; the
others never get here and leave the statements as they were. -/
def leftOnAbort : Pass → List Node → List Node
  | ranges, ns => markLiteralRangesUntilAbort ns
  | _, ns => ns

def progress (p : Pass) (ns : List Node) (count : Nat) : String :=
  match p with
  | labels => s!"Label pass: {(declaredLabels ns).length} labels declared, {count} undefined references"
  | ranges => s!"Range pass: {count} literal diagnostics"
  | duplicates => s!"Duplicate label pass: {count} re-declarations"

end Pass

end Lc3Lint
