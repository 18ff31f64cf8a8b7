import Mathlib
import Lc3Lint.Proofs.LiteralRanges
/-! Number literals in positional notation: the digits of a radix, in either case, and the value
they denote. -/
namespace Lc3Lint

/-- The digits of positional notation in order of value, lower case: `0` to `9`, then `a` to
`z`. -/
def digitAlphabet : List Char :=
  ['0', '1', '2', '3', '4', '5', '6', '7', '8', '9', 'a', 'b', 'c', 'd', 'e', 'f', 'g', 'h', 'i',
    'j', 'k', 'l', 'm', 'n', 'o', 'p', 'q', 'r', 's', 't', 'u', 'v', 'w', 'x', 'y', 'z']

def digitOf (c : Char) : Nat := digitAlphabet.idxOf c.toLower

namespace Radix

def IsDigit (r : Radix) (c : Char) : Prop := digitOf c < r.base

instance (r : Radix) : DecidablePred r.IsDigit := fun _ => inferInstanceAs (Decidable (_ < _))

/-- Digits with an optional sign: `+`, `-` or nothing, then one or more digits of the radix, and
nothing else. -/
def Signed (r : Radix) (cs : List Char) : Prop :=
  ∃ sign ds, cs = sign ++ ds ∧ (sign = [] ∨ sign = ['+'] ∨ sign = ['-']) ∧ ds ≠ [] ∧
    ∀ c ∈ ds, r.IsDigit c

def positionalValue (r : Radix) (ds : List Char) : Nat :=
  ∑ i : Fin ds.length, digitOf ds[i] * r.base ^ (ds.length - 1 - i)

theorem positionalValue_cons (r : Radix) (c : Char) (cs : List Char) :
    r.positionalValue (c :: cs) = digitOf c * r.base ^ cs.length + r.positionalValue cs := by
  unfold positionalValue
  simp only [List.length_cons]
  rw [Fin.sum_univ_succ]
  simp only [Fin.val_zero, Fin.val_succ, Nat.add_sub_cancel, Nat.sub_zero]
  congr 2
  funext i
  congr 2
  omega

theorem not_isDigit_sign (r : Radix) : ¬ r.IsDigit '+' ∧ ¬ r.IsDigit '-' := by
  cases r <;> decide +kernel

theorem digitValue?_eq (r : Radix) (c : Char) :
    r.digitValue? c = if r.IsDigit c then some (digitOf c) else none := by
  by_cases hc : c.toNat < 128
  · obtain ⟨n, rfl⟩ : ∃ n : Fin 128, Char.ofNat n = c := ⟨⟨c.toNat, hc⟩, Char.ofNat_toNat c⟩
    revert n
    cases r <;> decide +kernel
  · -- beyond ASCII: no range of the model holds `c`, and case mapping leaves it out of the
    -- alphabet, whose characters are all ASCII
    have hlt : ∀ d : Char, d.toNat < 128 → d < c := fun d hd => by
      rw [Char.lt_def, UInt32.lt_iff_toNat_lt]
      exact Nat.lt_of_lt_of_le hd (Nat.le_of_not_lt hc)
    have hnone : r.digitValue? c = none := by
      simp [digitValue?, Char.not_le.2 (hlt '9' (by decide)), Char.not_le.2 (hlt 'f' (by decide)),
        Char.not_le.2 (hlt 'F' (by decide))]
    have hlower : c.toLower = c := by
      unfold Char.toLower
      rw [dif_neg]
      intro h
      have := UInt32.le_iff_toNat_le.1 h.2
      simp only [Char.toNat_val] at this
      exact hc (by simp at this; omega)
    have hout : c ∉ digitAlphabet := fun hmem => hc (by
      have hall : ∀ d ∈ digitAlphabet, d.toNat < 128 := by simp [digitAlphabet]
      exact hall c hmem)
    have hdigit : ¬ r.IsDigit c := by
      unfold IsDigit digitOf
      rw [hlower, List.idxOf_eq_length hout]
      cases r <;> decide +kernel
    rw [hnone, if_neg hdigit]

theorem foldlM_digitValue? (r : Radix) (cs : List Char) (acc : Nat) :
    cs.foldlM (fun acc c => (r.digitValue? c).map fun d => acc * r.base + d) acc =
      if ∀ c ∈ cs, r.IsDigit c then some (acc * r.base ^ cs.length + r.positionalValue cs)
      else none := by
  induction cs generalizing acc with
  | nil => simp [positionalValue]
  | cons c cs ih =>
    rw [List.foldlM_cons, digitValue?_eq]
    -- the conditions are rewritten by `if_pos` and `if_neg`: deciding `IsDigit` of an unknown
    -- character would unfold the alphabet
    by_cases hc : r.IsDigit c
    · rw [if_pos hc, Option.map_some, Option.bind_eq_bind, Option.bind_some, ih]
      by_cases hcs : ∀ x ∈ cs, r.IsDigit x
      · rw [if_pos hcs, if_pos (List.forall_mem_cons.2 ⟨hc, hcs⟩), positionalValue_cons,
          List.length_cons]
        congr 1
        ring
      · rw [if_neg hcs, if_neg fun h => hcs (List.forall_mem_cons.1 h).2]
    · rw [if_neg hc, if_neg fun h => hc (List.forall_mem_cons.1 h).1]
      rfl

theorem positional_eq (r : Radix) (cs : List Char) :
    Numeral.positional r cs =
      if ∀ c ∈ cs, r.IsDigit c then some (r.positionalValue cs) else none := by
  unfold Numeral.positional
  rw [foldlM_digitValue?]
  simp

end Radix

namespace Numeral

theorem splitSign_spec (cs : List Char) : ∃ sign, cs = sign ++ (splitSign cs).2 ∧
    (sign = [] ∨ sign = ['+'] ∨ sign = ['-']) ∧ (splitSign cs).1 = decide (sign = ['-']) := by
  unfold splitSign
  split
  · exact ⟨['-'], rfl, .inr (.inr rfl), rfl⟩
  · exact ⟨['+'], rfl, .inr (.inl rfl), rfl⟩
  · exact ⟨[], rfl, .inl rfl, rfl⟩

theorem splitSign_signed {r : Radix} {sign ds : List Char}
    (hsign : sign = [] ∨ sign = ['+'] ∨ sign = ['-']) (hne : ds ≠ [])
    (hds : ∀ c ∈ ds, r.IsDigit c) :
    splitSign (sign ++ ds) = (decide (sign = ['-']), ds) := by
  rcases hsign with rfl | rfl | rfl
  · -- no sign: the first character is a digit, so neither `+` nor `-`
    obtain ⟨c, cs, rfl⟩ := List.exists_cons_of_ne_nil hne
    have hc := hds c List.mem_cons_self
    have hplus : c ≠ '+' := fun h => (r.not_isDigit_sign.1 (h ▸ hc))
    have hminus : c ≠ '-' := fun h => (r.not_isDigit_sign.2 (h ▸ hc))
    simp [splitSign, hplus, hminus]
  · rfl
  · rfl

theorem digitCount_signed {n : Numeral} {sign ds : List Char}
    (hcs : n.digits.toList = sign ++ ds) (hsign : sign = [] ∨ sign = ['+'] ∨ sign = ['-'])
    (hne : ds ≠ []) (hds : ∀ c ∈ ds, n.radix.IsDigit c) : n.digitCount = ds.length := by
  rw [digitCount, hcs, splitSign_signed hsign hne hds]

theorem value?_eq_some_iff (n : Numeral) (v : Int) :
    n.value? = some v ↔ ∃ sign ds, n.digits.toList = sign ++ ds ∧
      (sign = [] ∨ sign = ['+'] ∨ sign = ['-']) ∧ ds ≠ [] ∧ (∀ c ∈ ds, n.radix.IsDigit c) ∧
      v = (if sign = ['-'] then -1 else 1) * (n.radix.positionalValue ds : Int) := by
  constructor
  · intro h
    -- the sign the model splits off is the one of the decomposition
    obtain ⟨sign, hcs, hsign, hneg⟩ := splitSign_spec n.digits.toList
    unfold value? at h
    generalize splitSign n.digits.toList = p at h hcs hneg
    obtain ⟨negative, ds⟩ := p
    dsimp only at h hcs hneg
    have hne : ds ≠ [] := by
      rintro rfl
      simp at h
    rw [if_neg (by simpa using hne), Radix.positional_eq] at h
    by_cases hds : ∀ c ∈ ds, n.radix.IsDigit c
    · rw [if_pos hds] at h
      refine ⟨sign, ds, hcs, hsign, hne, hds, ?_⟩
      subst hneg
      by_cases hm : sign = ['-'] <;> simp_all
    · rw [if_neg hds] at h
      cases h
  · rintro ⟨sign, ds, hcs, hsign, hne, hds, rfl⟩
    unfold value?
    rw [hcs, splitSign_signed hsign hne hds]
    dsimp only
    rw [if_neg (by simpa using hne), Radix.positional_eq, if_pos hds]
    by_cases hm : sign = ['-'] <;> simp [hm]

theorem toInt_eq_ok_iff_value? (n : Numeral) (v : Int) :
    n.toInt = .ok v ↔
      n.value? = some v ∧ ¬(n.radix = .decimal ∧ Text.digitLimit < n.digitCount) := by
  cases hv : n.value? with
  | none => simp [toInt, hv]
  | some w =>
    rw [toInt_of_value? hv, Option.some.injEq]
    split
    · rename_i hlimit
      constructor
      · intro h
        cases h
      · rintro ⟨-, hlimit'⟩
        exact absurd hlimit hlimit'
    · rename_i hlimit
      constructor
      · rintro ⟨⟩
        exact ⟨rfl, hlimit⟩
      · rintro ⟨rfl, -⟩
        rfl

theorem toInt_eq_ok_iff (n : Numeral) (v : Int) :
    n.toInt = .ok v ↔ ∃ sign ds, n.digits.toList = sign ++ ds ∧
      (sign = [] ∨ sign = ['+'] ∨ sign = ['-']) ∧ ds ≠ [] ∧ (∀ c ∈ ds, n.radix.IsDigit c) ∧
      ¬(n.radix = .decimal ∧ Text.digitLimit < ds.length) ∧
      v = (if sign = ['-'] then -1 else 1) * (n.radix.positionalValue ds : Int) := by
  rw [toInt_eq_ok_iff_value?, value?_eq_some_iff]
  -- the digits the limit counts are those after the sign of any decomposition
  constructor
  · rintro ⟨⟨sign, ds, hcs, hsign, hne, hds, hval⟩, hlimit⟩
    exact ⟨sign, ds, hcs, hsign, hne, hds, digitCount_signed hcs hsign hne hds ▸ hlimit, hval⟩
  · rintro ⟨sign, ds, hcs, hsign, hne, hds, hlimit, hval⟩
    exact ⟨⟨sign, ds, hcs, hsign, hne, hds, hval⟩, digitCount_signed hcs hsign hne hds ▸ hlimit⟩

theorem isWellFormed_iff_signed (n : Numeral) :
    n.isWellFormed = true ↔ n.radix.Signed n.digits.toList := by
  rw [isWellFormed, Option.isSome_iff_exists]
  constructor
  · rintro ⟨v, hv⟩
    obtain ⟨sign, ds, hcs, hsign, hne, hds, -⟩ := (value?_eq_some_iff n v).1 hv
    exact ⟨sign, ds, hcs, hsign, hne, hds⟩
  · rintro ⟨sign, ds, hcs, hsign, hne, hds⟩
    exact ⟨_, (value?_eq_some_iff n _).2 ⟨sign, ds, hcs, hsign, hne, hds, rfl⟩⟩

/-- Number literals read as positional notation. A literal is well formed exactly when it is an
optional sign and one or more digits of its radix; reading it succeeds when it is well formed and,
if decimal, has at most `Text.digitLimit` digits, and gives the signed positional value. -/
theorem toInt_positional (n : Numeral) :
    (n.isWellFormed = true ↔ n.radix.Signed n.digits.toList) ∧
    ∀ v, n.toInt = .ok v ↔ ∃ sign ds, n.digits.toList = sign ++ ds ∧
      (sign = [] ∨ sign = ['+'] ∨ sign = ['-']) ∧ ds ≠ [] ∧ (∀ c ∈ ds, n.radix.IsDigit c) ∧
      ¬(n.radix = .decimal ∧ Text.digitLimit < ds.length) ∧
      v = (if sign = ['-'] then -1 else 1) *
        ∑ i : Fin ds.length, ((digitOf ds[i] * n.radix.base ^ (ds.length - 1 - i) : Nat) : Int) := by
  refine ⟨isWellFormed_iff_signed n, fun v => ?_⟩
  rw [toInt_eq_ok_iff]
  simp only [Radix.positionalValue, Nat.cast_sum]

/-- A decimal literal of 4301 ones is well formed, and reading it is refused. -/
theorem toInt_refuses_long_decimal :
    (Numeral.mk .decimal (String.ofList (List.replicate 4301 '1'))).isWellFormed = true ∧
    ∃ message, (Numeral.mk .decimal (String.ofList (List.replicate 4301 '1'))).toInt =
      .error message :=
  let h := toInt_replicate (d := '1') (by decide) (by decide) (n := 4301) (by decide)
  ⟨h.1, _, h.2⟩

end Numeral

end Lc3Lint
