import Lc3Lint.Node
/-! Grouping tokens into statements: an opcode or a directive takes the operands that follow it, a
comma only when another operand follows, and the operands are checked against its signature. -/
namespace Lc3Lint

def Token.isOperand (t : Token) : Bool := t.lexeme.operandKind?.isSome

def Token.isComma (t : Token) : Bool := t.lexeme == .comma

def takeOperands : List Token → List Token × Nat
  | t :: rest =>
    if t.isOperand then
      match rest with
      | c :: more =>
        match more with
        | u :: _ =>
          if c.isComma && u.isOperand then
            let (args, used) := takeOperands more
            (t :: args, used + 2)
          else ([t], 1)
        | [] => ([t], 1)
      | [] => ([t], 1)
    else ([], 0)
  | [] => ([], 0)

/-- Why operands do not fit a signature, as a message: the wrong number, or a kind not accepted at
some position. -/
def Signature.mismatch? (s : Signature) (args : List Token) : Option String :=
  if args.length ≠ s.arity then
    some s!"Incorrect number of arguments (expected {s.arity}, found {args.length})"
  else if (args.zip s.operands).any fun (a, ok) => !(a.lexeme.operandKind?.map ok.accepts).getD false then
    let noun := if s.arity = 1 then "type" else "types"
    some s!"Incorrect argument {noun} (expected {s.describeOperands})"
  else none

def knownDirectives : String := ", ".intercalate (Directive.all.map (·.signature.mnemonic))

/-- The statement led by token `t` at `index`, with the operands `args` that follow it. -/
def Node.ofLeading (t : Token) (index : Nat) (args : List Token) : Node :=
  let last := (args.getLast?.map (·.last)).getD t.last
  let failed (kind : NodeKind) (message : String) (hint : Option String) : Node :=
    { kind, token := t, index, start := t.start, last, args,
      diagnostics := [{ severity := .error, message, start := t.start, last, hint }] }
  match t.lexeme with
  | .opcode m =>
    match m.opcode.signature.mismatch? args with
    | some message => failed .instructionError message none
    | none =>
      let form := if m.opcode = .add ∨ m.opcode = .and then
          some (match args[2]? with
            | some a => if a.lexeme.operandKind? = some .register then .register else .immediate
            | none => .immediate)
        else none
      { kind := .instruction m.opcode, token := t, index, start := t.start, last, args, form }
  | .directive (.unknown name) =>
    failed .directiveError s!"Unknown directive `.{name}`" (some s!"expected one of {knownDirectives}")
  | .directive (.known d) =>
    match d.signature.mismatch? args with
    | some message => failed .directiveError message none
    | none => { kind := .directive d, token := t, index, start := t.start, last, args }
  | .newline => { kind := .blankLine, token := t, index, start := t.start, last := t.last }
  | .comment _ => { kind := .comment, token := t, index, start := t.start, last := t.last }
  | .label _ => { kind := .label, token := t, index, start := t.start, last := t.last }
  | .trapRoutine _ => { kind := .trapRoutine, token := t, index, start := t.start, last := t.last }
  | _ =>
    let hint := if t.isComma then some "a comma must be followed by another argument" else none
    let message := "Unexpected token: " ++ t.describe
    { kind := .unexpectedToken, token := t, index, start := t.start, last := t.last,
      diagnostics := [{ severity := .error, message, start := t.start, last := t.last, hint }] }

namespace Node

variable (t : Token) (i : Nat) (args : List Token)

@[simp] theorem ofLeading_token : (ofLeading t i args).token = t := by
  unfold ofLeading
  split
  case h_1 m _ => cases m.opcode.signature.mismatch? args <;> rfl
  case h_3 d _ => cases d.signature.mismatch? args <;> rfl
  all_goals rfl

@[simp] theorem ofLeading_index : (ofLeading t i args).index = i := by
  unfold ofLeading
  split
  case h_1 m _ => cases m.opcode.signature.mismatch? args <;> rfl
  case h_3 d _ => cases d.signature.mismatch? args <;> rfl
  all_goals rfl

@[simp] theorem ofLeading_start : (ofLeading t i args).start = t.start := by
  unfold ofLeading
  split
  case h_1 m _ => cases m.opcode.signature.mismatch? args <;> rfl
  case h_3 d _ => cases d.signature.mismatch? args <;> rfl
  all_goals rfl

theorem ofLeading_kind_of_comma (h : t.lexeme = .comma) :
    (ofLeading t i args).kind = .unexpectedToken := by
  simp [ofLeading, h]

end Node

def Token.takesOperands (t : Token) : Bool :=
  match t.lexeme with
  | .opcode _ | .directive _ => true
  | _ => false

theorem Node.ofLeading_args (t : Token) (i : Nat) (args : List Token) :
    (ofLeading t i args).args = if t.takesOperands then args else [] := by
  cases h : t.lexeme with
  | opcode m =>
    cases hm : m.opcode.signature.mismatch? args <;> simp [ofLeading, Token.takesOperands, h, hm]
  | directive d =>
    cases d with
    | unknown name => simp [ofLeading, Token.takesOperands, h]
    | known d =>
      cases hd : d.signature.mismatch? args <;> simp [ofLeading, Token.takesOperands, h, hd]
  | _ => simp [ofLeading, Token.takesOperands, h]

def nodesFrom (index : Nat) : List Token → List Node
  | [] => []
  | t :: rest =>
    let (args, used) := if t.takesOperands then takeOperands rest else ([], 0)
    Node.ofLeading t index args :: nodesFrom (index + 1 + used) (rest.drop used)
termination_by ts => ts.length
decreasing_by simp only [List.length_drop, List.length_cons]; omega

def Node.ofTokens (ts : List Token) : List Node := nodesFrom 0 ts

end Lc3Lint
