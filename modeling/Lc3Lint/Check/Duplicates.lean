import Lc3Lint.Check.Labels
/-! Labels declared twice: the first declaration of a name stands, and each later label statement
of that name gets an error pointing back at it. -/
namespace Lc3Lint

/-- The error for a label statement whose name was declared by one of the earlier statements,
`earlier` holding the first declarations seen so far. -/
def Node.redeclaration? (earlier : List (String × Location)) (n : Node) : Option Diagnostic :=
  match n.name? with
  | some x => match earlier.find? (·.1 == x) with
    | some (_, first) =>
      let hint := some s!"first declared at {first.line}:{first.column}"
      some { severity := .error, message := s!"Duplicate label `{x}`", start := n.start,
             last := n.last, hint }
    | none => none
  | none => none

def markRedeclarations : List (String × Location) → List Node → List Node × Nat
  | _, [] => ([], 0)
  | earlier, n :: rest =>
    let seen := match n.name? with
      | some x => if earlier.any (·.1 == x) then earlier else earlier ++ [(x, n.start)]
      | none => earlier
    let (marked, count) := markRedeclarations seen rest
    let found := n.redeclaration? earlier
    (n.attachFound found :: marked, count + (if found.isSome then 1 else 0))

def checkDuplicateLabels (ns : List Node) : List Node × Nat := markRedeclarations [] ns

end Lc3Lint
