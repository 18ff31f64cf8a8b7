import Mathlib
import Lc3Lint.Isa.Field
/-! Operand fields hold exactly the integers of their width in two's complement. -/
namespace Lc3Lint.OperandField

theorem int_pow_eq_pow (a : Int) (n : Nat) : Int.pow a n = a ^ n := rfl

theorem contains_iff (f : OperandField) (v : Int) :
    f.contains v = true ↔ f.minimum ≤ v ∧ v ≤ f.maximum := by
  simp [contains]

theorem emod_eq_self_iff {a m : Int} (hm : 0 < m) : a % m = a ↔ 0 ≤ a ∧ a < m := by
  constructor
  · intro h
    exact ⟨h ▸ Int.emod_nonneg a hm.ne', h ▸ Int.emod_lt_of_pos a hm⟩
  · exact fun ⟨h0, h1⟩ => Int.emod_eq_of_lt h0 h1

theorem two_pow_eq_twice {b : Nat} (hb : 1 ≤ b) : (2 : Int) ^ b = 2 * 2 ^ (b - 1) := by
  rw [← pow_succ']
  congr 1
  omega

theorem setOf_contains (f : OperandField) :
    {v : Int | f.contains v = true} = Set.Icc f.minimum f.maximum := by
  ext v
  simp [contains_iff]

theorem maximum_add_one_sub_minimum (f : OperandField) (hb : 1 ≤ f.bits) :
    f.maximum + 1 - f.minimum = 2 ^ f.bits := by
  have h2 := two_pow_eq_twice (b := f.bits) hb
  unfold minimum maximum
  cases f.signed <;> simp only [Bool.false_eq_true, ↓reduceIte, int_pow_eq_pow] <;> omega

theorem ncard_contains (f : OperandField) (hb : 1 ≤ f.bits) :
    {v : Int | f.contains v = true}.ncard = 2 ^ f.bits := by
  rw [setOf_contains, ← Finset.coe_Icc, Set.ncard_coe_finset, Int.card_Icc,
    maximum_add_one_sub_minimum f hb, show (2 : Int) ^ f.bits = ((2 ^ f.bits : Nat) : Int) by simp,
    Int.toNat_natCast]

/-- A field of at least one bit is two's complement representability: a signed field holds the
values equal to the sign extension of their low `b` bits, an unsigned one those equal to their low
`b` bits; both hold `2 ^ b` values. -/
theorem contains_eq_two_complement (f : OperandField) (hb : 1 ≤ f.bits) :
    (f.signed = true →
      f.minimum = -2 ^ (f.bits - 1) ∧ f.maximum = 2 ^ (f.bits - 1) - 1 ∧
      ∀ v : Int, f.contains v = true ↔
        (v + 2 ^ (f.bits - 1)) % 2 ^ f.bits - 2 ^ (f.bits - 1) = v) ∧
    (f.signed = false →
      f.minimum = 0 ∧ f.maximum = 2 ^ f.bits - 1 ∧
      ∀ v : Int, f.contains v = true ↔ v % 2 ^ f.bits = v) ∧
    {v : Int | f.contains v = true}.ncard = 2 ^ f.bits := by
  have h2 := two_pow_eq_twice (b := f.bits) hb
  have hpos : (0 : Int) < 2 ^ (f.bits - 1) := by positivity
  refine ⟨fun hs => ?_, fun hs => ?_, ncard_contains f hb⟩
  · have hmin : f.minimum = -2 ^ (f.bits - 1) := by simp [minimum, hs]
    have hmax : f.maximum = 2 ^ (f.bits - 1) - 1 := by simp [maximum, hs]
    refine ⟨hmin, hmax, fun v => ?_⟩
    rw [contains_iff, hmin, hmax, sub_eq_iff_eq_add, emod_eq_self_iff (by omega)]
    omega
  · have hmin : f.minimum = 0 := by simp [minimum, hs]
    have hmax : f.maximum = 2 ^ f.bits - 1 := by simp [maximum, hs]
    refine ⟨hmin, hmax, fun v => ?_⟩
    rw [contains_iff, hmin, hmax, emod_eq_self_iff (by omega)]
    omega

theorem imm5_two_complement : 1 ≤ imm5.bits ∧
    ((imm5.signed = true →
      imm5.minimum = -2 ^ (imm5.bits - 1) ∧ imm5.maximum = 2 ^ (imm5.bits - 1) - 1 ∧
      ∀ v : Int, imm5.contains v = true ↔
        (v + 2 ^ (imm5.bits - 1)) % 2 ^ imm5.bits - 2 ^ (imm5.bits - 1) = v) ∧
    (imm5.signed = false →
      imm5.minimum = 0 ∧ imm5.maximum = 2 ^ imm5.bits - 1 ∧
      ∀ v : Int, imm5.contains v = true ↔ v % 2 ^ imm5.bits = v) ∧
    {v : Int | imm5.contains v = true}.ncard = 2 ^ imm5.bits) :=
  ⟨by decide, contains_eq_two_complement imm5 (by decide)⟩

end Lc3Lint.OperandField
