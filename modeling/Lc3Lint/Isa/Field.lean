/-! Operand fields: the fixed-width numeric fields of an instruction, signed or unsigned. -/
namespace Lc3Lint

structure OperandField where
  name : String
  bits : Nat
  signed : Bool
  deriving DecidableEq, Repr

namespace OperandField

def minimum (f : OperandField) : Int := if f.signed then -Int.pow 2 (f.bits - 1) else 0

def maximum (f : OperandField) : Int :=
  if f.signed then Int.pow 2 (f.bits - 1) - 1 else Int.pow 2 f.bits - 1

def contains (f : OperandField) (v : Int) : Bool := f.minimum ≤ v && v ≤ f.maximum

/-- A field of a width given as any integer. Its bounds shift by the width, one less when signed,
so a negative width and a signed width of zero are refused as a negative shift. -/
def ofWidth (name : String) (bits : Int) (signed : Bool) : Except String OperandField :=
  if bits < 0 ∨ (signed = true ∧ bits = 0) then .error "negative shift count"
  else .ok ⟨name, bits.toNat, signed⟩

def extension (f : OperandField) : String := if f.signed then "sign extended" else "zero extended"

def imm5 : OperandField := ⟨"imm5", 5, true⟩
def offset6 : OperandField := ⟨"offset6", 6, true⟩
def pcOffset9 : OperandField := ⟨"PCoffset9", 9, true⟩
def pcOffset11 : OperandField := ⟨"PCoffset11", 11, true⟩
def trapVect8 : OperandField := ⟨"trapvect8", 8, false⟩
def address16 : OperandField := ⟨"address16", 16, false⟩
def count16 : OperandField := ⟨"count16", 16, false⟩

example : imm5.minimum = -16 ∧ imm5.maximum = 15 ∧ trapVect8.maximum = 255 := by decide

end OperandField

end Lc3Lint
