import Lc3Lint.Check.Labels
/-! Number literals in operands: a malformed literal is an error, a well-formed one outside its
field a warning, and a decimal too long to read aborts the analysis. -/
namespace Lc3Lint

def Node.field? (n : Node) : Option OperandField :=
  match n.kind with
  | .instruction op => op.signature.field
  | _ => match n.directive? with
    | some (.known d) => d.signature.field
    | _ => none

def Radix.example : Radix → String
  | .hex => "hexadecimal literals look like x1F or x-10"
  | .decimal => "decimal literals look like #10 or #-3"

def rangeMessage (lit : Numeral) (f : OperandField) (low high : String) : String :=
  s!"Number literal `{lit.text}` is out of range. Must be within [{low}, {high}] ({f.bits} bits {f.extension})"

/-- The message for a literal outside its field, with the bounds shown in the literal's radix;
showing a bound may fail. -/
def outOfRangeMessage? (lit : Numeral) (f : OperandField) : Except String String := do
  let low ← lit.radix.showBound f.minimum
  let high ← lit.radix.showBound f.maximum
  return rangeMessage lit f low high

def outOfRangeMessage (lit : Numeral) (f : OperandField) : String :=
  rangeMessage lit f (lit.radix.render f.minimum) (lit.radix.render f.maximum)

/-- An analysis cut short because a value it needed could not be read, for the reason given.
Nothing the analysis found is kept. -/
structure AnalysisAbort where
  message : String
  deriving DecidableEq, Repr

/-- The diagnostic for a statement's literal: an error if it is malformed, a warning if it does
not fit the field. The value is read only for a statement with a field, and that may abort. -/
def Node.literalProblem? (n : Node) : Except AnalysisAbort (Option Diagnostic) :=
  match n.literalArg?, n.literal? with
  | some t, some lit =>
    if !lit.isWellFormed then
      .ok (some { severity := .error, message := s!"Invalid number literal `{lit.text}`",
                  start := t.start, last := t.last, hint := some lit.radix.example })
    else match n.field? with
      | none => .ok none
      | some f => match lit.toInt with
        | .error m => .error ⟨m⟩
        | .ok v =>
          if f.contains v then .ok none
          else match outOfRangeMessage? lit f with
            | .ok message => .ok (some { severity := .warning, message, start := t.start, last := t.last })
            | .error m => .error ⟨m⟩
  | _, _ => .ok none

def checkLiteralRanges (ns : List Node) : Except AnalysisAbort (List Node × Nat) := do
  let found ← ns.mapM Node.literalProblem?
  return ((ns.zip found).map fun (n, d) => n.attachFound d, (found.filterMap id).length)

def markLiteralRangesUntilAbort : List Node → List Node
  | [] => []
  | n :: ns => match n.literalProblem? with
    | .ok d => n.attachFound d :: markLiteralRangesUntilAbort ns
    | .error _ => n :: ns

end Lc3Lint
