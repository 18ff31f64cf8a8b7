import Lc3Lint.Diagnostic
/-! Collecting the diagnostics of a file for one report: errors and warnings apart, listed together
in source order, errors past the limit left out. -/
namespace Lc3Lint

/-- The aggregate failure of a check: the full report and the counts. The counts are carried as
given, so a failure made by hand may hold any integers; one made from a collector holds its
counts. -/
structure CheckFailure where
  report : String
  errorCount : Int := 0
  warningCount : Int := 0
  deriving DecidableEq, Repr

structure Collector where
  errors : List Diagnostic := []
  warnings : List Diagnostic := []
  maxErrors : Int := 100
  warningsAsErrors : Bool := false
  deriving DecidableEq, Repr

namespace Collector

def add (c : Collector) (d : Diagnostic) : Collector :=
  if d.isError then { c with errors := c.errors ++ [d] } else { c with warnings := c.warnings ++ [d] }

def extend (c : Collector) (ds : List Diagnostic) : Collector := ds.foldl add c

def clear (c : Collector) : Collector := { c with errors := [], warnings := [] }

def errorCount (c : Collector) : Nat := c.errors.length

def warningCount (c : Collector) : Nat := c.warnings.length

def hasErrors (c : Collector) : Bool :=
  (c.warningsAsErrors && !c.warnings.isEmpty) || !c.errors.isEmpty

def counted (n : Nat) (noun : String) : String :=
  s!"{n} {noun}" ++ (if n = 1 then "" else "s")

def summary (c : Collector) : String :=
  counted c.errorCount "error" ++ ", " ++ counted c.warningCount "warning"

def ordered (c : Collector) : List Diagnostic :=
  (c.errors ++ c.warnings).mergeSort fun a b => a.start.atOrBefore b.start

def lineAt (lines : Option (List String)) (n : Int) : Option String :=
  match lines with
  | some ls => if 1 ≤ n then ls[(n - 1).toNat]? else none
  | none => none

/-- The blocks of the report, each diagnostic followed by an empty line, skipping the errors past
the limit, with the number of errors shown. -/
def blocks (c : Collector) (lines : Option (List String)) (style : SeverityStyle) :
    List String × Nat :=
  c.ordered.foldl (fun (out, shown) d =>
    if d.isError && c.maxErrors ≤ shown then (out, shown)
    else (out ++ [d.render (lineAt lines d.start.line) style, ""], if d.isError then shown + 1 else shown))
    ([], 0)

def report (c : Collector) (lines : Option (List String)) (style : SeverityStyle := .plain) : String :=
  let (out, shown) := c.blocks lines style
  let hidden := c.errorCount - shown
  let more := if hidden > 0 then [s!"... {hidden} more errors not shown (limit {c.maxErrors})"] else []
  "\n".intercalate (out ++ more ++ [c.summary])

def failure? (c : Collector) (lines : Option (List String)) : Option CheckFailure :=
  if c.hasErrors then some ⟨c.report lines, c.errorCount, c.warningCount⟩ else none

end Collector

structure LocatedError where
  message : String
  location : Option Location := none
  hint : Option String := none
  sourceLine : Option String := none
  deriving DecidableEq, Repr

namespace LocatedError

def ofDiagnostic (d : Diagnostic) (sourceLine : Option String) : LocatedError :=
  ⟨d.message, some d.start, d.hint, sourceLine⟩

/-- The error as text. The source line is shown only with a location, and the caret only at a
positive column. -/
def render (e : LocatedError) : String :=
  let head := match e.location with
    | some l => s!"{l.render}: error: {e.message}"
    | none => s!"error: {e.message}"
  let context := match e.sourceLine, e.location with
    | some line, some l =>
      ["    " ++ line] ++ (if l.column > 0 then ["".pushn ' ' (4 + l.column - 1).toNat ++ "^"] else [])
    | _, _ => []
  let hint := match e.hint.filter (!·.isEmpty) with
    | some h => ["hint: " ++ h]
    | none => []
  "\n".intercalate (head :: context ++ hint)

end LocatedError

end Lc3Lint
