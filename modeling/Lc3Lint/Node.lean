import Lc3Lint.Token
import Lc3Lint.Diagnostic
/-! Statements of assembly text. Every token that can start one makes one node; an opcode or a
directive takes the operands that follow it, and the checks attach diagnostics to nodes. -/
namespace Lc3Lint

inductive NodeKind where
  | blankLine
  | comment
  | label
  | trapRoutine
  | unexpectedToken
  | instruction (op : Opcode)
  | instructionError
  | directive (d : Directive)
  | directiveError
  deriving DecidableEq, Repr

namespace NodeKind

def name : NodeKind → String
  | blankLine => "BLANK_LINE"
  | comment => "COMMENT"
  | label => "LABEL"
  | trapRoutine => "TRAP_ROUTINE"
  | unexpectedToken => "UNEXPECTED_TOKEN"
  | instruction op => op.name
  | instructionError => "INSTRUCTION_ERROR"
  | directive d => d.name
  | directiveError => "DIRECTIVE_ERROR"

def isInstruction : NodeKind → Bool
  | instruction _ => true
  | _ => false

def isDirective : NodeKind → Bool
  | directive _ => true
  | _ => false

def isError : NodeKind → Bool
  | instructionError | directiveError | unexpectedToken => true
  | _ => false

def takesTarget : NodeKind → Bool
  | instruction op => op ∈ [.br, .jsr, .ld, .ldi, .lea, .st, .sti, .ldr, .str]
  | _ => false

end NodeKind

inductive Form where
  | register | immediate
  deriving DecidableEq, Repr

def Form.name : Form → String
  | .register => "REGISTER" | .immediate => "IMMEDIATE"

inductive Target where
  | label (name : String)
  | literal (n : Numeral)
  deriving DecidableEq, Repr

/-- A statement: its kind, leading token and that token's index, its span, its operands, the form
of ADD and AND, and the diagnostics attached to it in order. -/
structure Node where
  kind : NodeKind
  token : Token
  index : Nat
  start : Location
  last : Location
  args : List Token := []
  form : Option Form := none
  diagnostics : List Diagnostic := []
  deriving DecidableEq, Repr

namespace Node

def opcode? (n : Node) : Option Opcode :=
  match n.token.lexeme with
  | .opcode m => some m.opcode
  | _ => none

def directive? (n : Node) : Option DirectiveWord :=
  match n.token.lexeme with
  | .directive d => some d
  | _ => none

def mnemonic (n : Node) : String :=
  match n.token.lexeme with
  | .directive d => d.text
  | .opcode m => m.text
  | _ => n.token.text

def condition? (n : Node) : Option BranchCondition :=
  match n.kind, n.token.lexeme with
  | .instruction .br, .opcode m => m.condition?
  | _, _ => none

def registers (n : Node) : List Register :=
  if n.kind.isError then []
  else n.args.filterMap fun t => match t.lexeme with
    | .register r => some r
    | _ => none

def target? (n : Node) : Option Target :=
  if n.kind.takesTarget then
    match n.args.getLast? with
    | some t => match t.lexeme with
      | .label name => some (.label name)
      | .number lit => some (.literal lit)
      | _ => none
    | none => none
  else none

/-- The operand token that holds the node's number literal: the immediate of ADD and AND, the
operand of TRAP, .ORIG, .FILL and .BLKW, or a literal target. -/
def literalArg? (n : Node) : Option Token :=
  let arg? :=
    if n.form = some .immediate then n.args[2]?
    else match n.kind with
      | .instruction .trap | .directive .orig | .directive .fill | .directive .blkw => n.args[0]?
      | _ => if n.kind.takesTarget then n.args.getLast? else none
  arg?.filter fun t => match t.lexeme with
    | .number _ => true
    | _ => false

def literal? (n : Node) : Option Numeral :=
  n.literalArg?.bind fun t => match t.lexeme with
    | .number lit => some lit
    | _ => none

def string? (n : Node) : Option String :=
  match n.kind, n.args with
  | .directive .stringz, t :: _ => match t.lexeme with
    | .string s => some s
    | _ => none
  | _, _ => none

def name? (n : Node) : Option String :=
  match n.kind, n.token.lexeme with
  | .label, .label name => some name
  | _, _ => none

def comment? (n : Node) : Option String :=
  match n.kind, n.token.lexeme with
  | .comment, .comment text => some text
  | _, _ => none

def routine? (n : Node) : Option TrapRoutine :=
  match n.kind, n.token.lexeme with
  | .trapRoutine, .trapRoutine r => some r
  | _, _ => none

def hasErrors (n : Node) : Bool := n.diagnostics.any Diagnostic.isError

def attach (n : Node) (d : Diagnostic) : Node := { n with diagnostics := n.diagnostics ++ [d] }

/-- One line of a statement listing: kind and span, the leading text or the label's name, the form,
the operands and the number of diagnostics. -/
def render (n : Node) : String :=
  let span := s!"{n.start.line}:{n.start.column}-{n.last.line}:{n.last.column}"
  let lead := if n.kind.isInstruction || n.kind.isDirective || n.kind.isError then [n.token.text]
    else match n.name? with
      | some name => [Text.quote name]
      | none => []
  let form := (n.form.map Form.name).toList
  let args := if n.args.isEmpty then [] else ["[" ++ ", ".intercalate (n.args.map (·.text)) ++ "]"]
  let count := if n.diagnostics.isEmpty then [] else [s!"diagnostics={n.diagnostics.length}"]
  "Node(" ++ ", ".intercalate ([n.kind.name, span] ++ lead ++ form ++ args ++ count) ++ ")"

end Node

end Lc3Lint
