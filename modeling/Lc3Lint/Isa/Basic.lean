/-! The LC-3 instruction set as assembly text names it: opcodes, branch conditions, registers, trap
routines and directives, each with the upper-case keyword that spells it. -/
namespace Lc3Lint

inductive Opcode where
  | add | and | br | jmp | jsr | ld | ldi | ldr | lea | not | ret | st | sti | str | trap
  deriving DecidableEq, Repr, Inhabited

namespace Opcode

def all : List Opcode := [add, and, br, jmp, jsr, ld, ldi, ldr, lea, not, ret, st, sti, str, trap]

def name : Opcode → String
  | add => "ADD" | and => "AND" | br => "BR" | jmp => "JMP" | jsr => "JSR" | ld => "LD"
  | ldi => "LDI" | ldr => "LDR" | lea => "LEA" | not => "NOT" | ret => "RET" | st => "ST"
  | sti => "STI" | str => "STR" | trap => "TRAP"

/-- The opcode spelled by an upper-case keyword. A branch is spelled with its flags and is not
found here. -/
def ofKeyword? (u : String) : Option Opcode :=
  (all.filter (· != br)).find? (·.name == u)

end Opcode

structure BranchCondition where
  n : Bool
  z : Bool
  p : Bool
  deriving DecidableEq, Repr

namespace BranchCondition

def ofSuffix (s : List Char) : BranchCondition :=
  if s.isEmpty then ⟨true, true, true⟩ else ⟨s.contains 'N', s.contains 'Z', s.contains 'P'⟩

def text (c : BranchCondition) : String :=
  (if c.n then "n" else "") ++ (if c.z then "z" else "") ++ (if c.p then "p" else "")

end BranchCondition

structure Register where
  index : Fin 8
  deriving DecidableEq, Repr

namespace Register

def name (r : Register) : String := "R" ++ toString r.index.val

def ofKeyword? (u : String) : Option Register :=
  (List.finRange 8).map Register.mk |>.find? (·.name == u)

end Register

inductive TrapRoutine where
  | getc | out | puts | input | putsp | halt
  deriving DecidableEq, Repr

namespace TrapRoutine

def all : List TrapRoutine := [getc, out, puts, input, putsp, halt]

def name : TrapRoutine → String
  | getc => "GETC" | out => "OUT" | puts => "PUTS" | input => "IN" | putsp => "PUTSP" | halt => "HALT"

def vector : TrapRoutine → Nat
  | getc => 0x20 | out => 0x21 | puts => 0x22 | input => 0x23 | putsp => 0x24 | halt => 0x25

def ofKeyword? (u : String) : Option TrapRoutine := all.find? (·.name == u)

end TrapRoutine

inductive Directive where
  | orig | fill | blkw | stringz | endOfProgram
  deriving DecidableEq, Repr

namespace Directive

def all : List Directive := [orig, fill, blkw, stringz, endOfProgram]

def name : Directive → String
  | orig => "ORIG" | fill => "FILL" | blkw => "BLKW" | stringz => "STRINGZ" | endOfProgram => "END"

def ofKeyword? (u : String) : Option Directive := all.find? (·.name == u)

end Directive

end Lc3Lint
