import Lc3Lint.Node
import Lc3Lint.Text.CaseMap
import Lc3Lint.Text.Similarity
/-! Label references: a branch, load or store whose target names no declared label gets an error
on the target, with a hint at the closest declared name. -/
namespace Lc3Lint

def declaredLabels (ns : List Node) : List (String × Location) :=
  ns.foldl (fun acc n => match n.name? with
    | some x => if acc.any (·.1 == x) then acc else acc ++ [(x, n.start)]
    | none => acc) []

/-- The declared name to suggest for an undefined one: the first that is equal up to case, else
the most similar. -/
def suggestLabel? (x : String) (labels : List String) : Option String :=
  match labels.find? (fun l => Text.lower l == Text.lower x) with
  | some l => some l
  | none => (Text.closeMatches x labels 1).head?

def Node.undefinedReference? (labels : List String) (n : Node) : Option Diagnostic :=
  match n.target?, n.args.getLast? with
  | some (.label x), some t =>
    if labels.contains x then none
    else
      let hint := (suggestLabel? x labels).map fun y => s!"did you mean `{y}`?"
      some { severity := .error, message := s!"Undefined label `{x}`", start := t.start,
             last := t.last, hint }
  | _, _ => none

def Node.attachFound (n : Node) : Option Diagnostic → Node
  | some d => n.attach d
  | none => n

def resolveLabels (ns : List Node) : List Node × Nat :=
  let labels := (declaredLabels ns).map Prod.fst
  (ns.map fun n => n.attachFound (n.undefinedReference? labels),
    (ns.filterMap (Node.undefinedReference? labels)).length)

end Lc3Lint
