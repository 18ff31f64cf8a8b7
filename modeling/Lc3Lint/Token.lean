import Lc3Lint.Isa.Basic
import Lc3Lint.Isa.Signature
import Lc3Lint.Numeral
import Lc3Lint.Location
import Lc3Lint.Text.Quoted
/-! Tokens of assembly text: a lexeme with the exact text it covers and the locations of its first and
last characters. -/
namespace Lc3Lint

inductive DirectiveWord where
  | known (d : Directive)
  | unknown (name : String)
  deriving DecidableEq, Repr

def DirectiveWord.text : DirectiveWord → String
  | .known d => "." ++ d.name
  | .unknown name => "." ++ name

inductive Mnemonic where
  | branch (cond : BranchCondition)
  | plain (op : Opcode)
  deriving DecidableEq, Repr

namespace Mnemonic

def opcode : Mnemonic → Opcode
  | branch _ => .br
  | plain op => op

def condition? : Mnemonic → Option BranchCondition
  | branch c => some c
  | plain _ => none

def text : Mnemonic → String
  | branch c => "BR" ++ c.text
  | plain op => op.name

end Mnemonic

inductive Lexeme where
  | newline
  | comma
  | comment (text : String)
  | string (body : String)
  | number (n : Numeral)
  | directive (d : DirectiveWord)
  | opcode (m : Mnemonic)
  | trapRoutine (r : TrapRoutine)
  | register (r : Register)
  | label (name : String)
  deriving DecidableEq, Repr

namespace Lexeme

def className : Lexeme → String
  | newline => "NEWLINE" | comma => "COMMA" | comment _ => "COMMENT" | string _ => "STRING"
  | number _ => "NUMBER" | directive _ => "DIRECTIVE" | opcode _ => "OPCODE"
  | trapRoutine _ => "TRAP_ROUTINE" | register _ => "REGISTER" | label _ => "LABEL"

def description : Lexeme → String
  | newline => "newline" | comma => "comma" | comment _ => "comment" | string _ => "string literal"
  | number _ => "number literal" | directive _ => "directive" | opcode _ => "opcode"
  | trapRoutine _ => "trap routine" | register _ => "register" | label _ => "label"

def operandKind? : Lexeme → Option OperandKind
  | register _ => some .register
  | number _ => some .literal
  | label _ => some .label
  | string _ => some .string
  | _ => none

def shown? : Lexeme → Option String
  | newline | comma => none
  | comment s | string s | label s => some (Text.quote s)
  | number n => some n.text
  | directive (.known d) => some d.name
  | directive (.unknown name) => some ("." ++ name)
  | opcode m => some m.text
  | trapRoutine r => some r.name
  | register r => some r.name

end Lexeme

/-- A token: its lexeme, the first and last characters it covers, and its exact text. -/
structure Token where
  lexeme : Lexeme
  start : Location
  last : Location
  text : String
  deriving DecidableEq, Repr

namespace Token

def span (t : Token) : String :=
  s!"{t.start.line}:{t.start.column}-{t.last.line}:{t.last.column}"

def render (t : Token) : String :=
  match t.lexeme.shown? with
  | some v => s!"Token({t.lexeme.className}, {v}, {t.span})"
  | none => s!"Token({t.lexeme.className}, {t.span})"

def describe (t : Token) : String := t.lexeme.description ++ " `" ++ t.text ++ "`"

end Token

end Lc3Lint
