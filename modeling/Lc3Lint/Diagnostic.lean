import Lc3Lint.Location
/-! Diagnostics: an error or a warning with a message, the span of characters it concerns and
perhaps a hint, rendered with the source line and carets beneath the span. -/
namespace Lc3Lint

inductive Severity where
  | error | warning
  deriving DecidableEq, Repr

def Severity.word : Severity → String
  | .error => "error" | .warning => "warning"

abbrev SeverityStyle := Severity → String → String

def SeverityStyle.plain : SeverityStyle := fun _ w => w

/-- A problem with the text from `start` to `last`, both characters included. -/
structure Diagnostic where
  severity : Severity
  message : String
  start : Location
  last : Location
  hint : Option String := none
  deriving DecidableEq, Repr

namespace Diagnostic

def isError (d : Diagnostic) : Bool := d.severity == .error

def shownHint? (d : Diagnostic) : Option String := d.hint.filter (!·.isEmpty)

/-- The caret line under the start line of the span: spaces up to the first column, then a caret
under each column of the span on that line; a span that goes on to later lines is marked to the
end of the line. -/
def underline (d : Diagnostic) (line : String) : String :=
  let first := d.start.column
  let last := if d.last.line = d.start.line then d.last.column else max line.length first
  "".pushn ' ' (first - 1).toNat ++ "".pushn '^' (last - first + 1).toNat

def render (d : Diagnostic) (line : Option String) (style : SeverityStyle := .plain) : String :=
  let head := s!"{d.start.render}: {style d.severity d.severity.word}: {d.message}"
  let context := match line with
    | some l => ["    " ++ l, "    " ++ d.underline l]
    | none => []
  let hint := match d.shownHint? with
    | some h => ["hint: " ++ h]
    | none => []
  "\n".intercalate (head :: context ++ hint)

end Diagnostic

end Lc3Lint
