/-! Locations in source text, counted from one in characters and ordered by line, then column. -/
namespace Lc3Lint

structure Location where
  file : String
  line : Int
  column : Int
  deriving DecidableEq, Repr

namespace Location

def render (l : Location) : String := s!"{l.file}:{l.line}:{l.column}"

def before (a b : Location) : Bool := a.line < b.line || (a.line == b.line && a.column < b.column)

def atOrBefore (a b : Location) : Bool := !before b a

end Location

end Lc3Lint
