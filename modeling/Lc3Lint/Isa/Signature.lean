import Lc3Lint.Isa.Basic
import Lc3Lint.Isa.Field
/-! Signatures: the kinds of operand each opcode and directive accepts at each position, and the
field its numeric operand is written into. -/
namespace Lc3Lint

inductive OperandKind where
  | register | literal | label | string
  deriving DecidableEq, Repr

def OperandKind.name : OperandKind → String
  | .register => "register" | .literal => "literal" | .label => "label" | .string => "string"

structure OperandSet where
  register : Bool := false
  literal : Bool := false
  label : Bool := false
  string : Bool := false
  deriving DecidableEq, Repr

namespace OperandSet

def accepts (s : OperandSet) : OperandKind → Bool
  | .register => s.register | .literal => s.literal | .label => s.label | .string => s.string

def describe (s : OperandSet) : String :=
  "/".intercalate (([.register, .literal, .label, .string].filter s.accepts).map OperandKind.name)

def reg : OperandSet := { register := true }
def lit : OperandSet := { literal := true }
def regOrLit : OperandSet := { register := true, literal := true }
def target : OperandSet := { literal := true, label := true }
def str : OperandSet := { string := true }

end OperandSet

structure Signature where
  mnemonic : String
  operands : List OperandSet
  field : Option OperandField := none
  deriving DecidableEq, Repr

namespace Signature

def arity (s : Signature) : Nat := s.operands.length

def describeOperands (s : Signature) : String := ", ".intercalate (s.operands.map OperandSet.describe)

end Signature

open OperandSet in
def Opcode.signature : Opcode → Signature
  | .add => ⟨"ADD", [reg, reg, regOrLit], some .imm5⟩
  | .and => ⟨"AND", [reg, reg, regOrLit], some .imm5⟩
  | .br => ⟨"BR", [target], some .pcOffset9⟩
  | .jmp => ⟨"JMP", [reg], none⟩
  | .jsr => ⟨"JSR", [target], some .pcOffset11⟩
  | .ld => ⟨"LD", [reg, target], some .pcOffset9⟩
  | .ldi => ⟨"LDI", [reg, target], some .pcOffset9⟩
  | .ldr => ⟨"LDR", [reg, reg, target], some .offset6⟩
  | .lea => ⟨"LEA", [reg, target], some .pcOffset9⟩
  | .not => ⟨"NOT", [reg, reg], none⟩
  | .ret => ⟨"RET", [], none⟩
  | .st => ⟨"ST", [reg, target], some .pcOffset9⟩
  | .sti => ⟨"STI", [reg, target], some .pcOffset9⟩
  | .str => ⟨"STR", [reg, reg, target], some .offset6⟩
  | .trap => ⟨"TRAP", [lit], some .trapVect8⟩

def Opcode.isSymbolic (op : Opcode) : Bool := op.signature.operands.getLast? == some .target

open OperandSet in
def Directive.signature : Directive → Signature
  | .orig => ⟨".ORIG", [lit], some .address16⟩
  | .fill => ⟨".FILL", [lit], none⟩
  | .blkw => ⟨".BLKW", [lit], some .count16⟩
  | .stringz => ⟨".STRINGZ", [str], none⟩
  | .endOfProgram => ⟨".END", [], none⟩

example : Opcode.all.filter Opcode.isSymbolic = [.br, .jsr, .ld, .ldi, .ldr, .lea, .st, .sti, .str] := by
  decide

end Lc3Lint
