import Mathlib
import Lc3Lint.Proofs.PositionalNotation
/-! Field bounds written as literals read back as the bound, and a literal shows back as written
exactly when its digits are canonical. -/
namespace Lc3Lint

namespace Radix

variable (r : Radix)

theorem one_lt_base : 1 < r.base := by
  cases r <;> decide

theorem base_le_sixteen : r.base ≤ 16 := by
  cases r <;> decide

def upperDigits (n : Nat) : List Char := (Nat.toDigits r.base n).map Char.toUpper

def signOf (v : Int) : List Char := if v < 0 then ['-'] else []

/-- The digits of a positive magnitude as bounds write them: one or more upper-case digits of the
radix, the first of them not `0`. -/
def Leading (ds : List Char) : Prop :=
  ds ≠ [] ∧ ds.head? ≠ some '0' ∧ ∀ c ∈ ds, r.IsDigit c ∧ c.toUpper = c

theorem isDigit_iff_isSome {c : Char} : r.IsDigit c ↔ (r.digitValue? c).isSome := by
  rw [digitValue?_eq]
  split <;> simp_all

-- decided through the reading of digits: deciding `IsDigit` itself unfolds the whole alphabet
instance : DecidablePred r.Leading := fun ds =>
  decidable_of_iff (ds ≠ [] ∧ ds.head? ≠ some '0' ∧
      (ds.all fun c => (r.digitValue? c).isSome && c.toUpper == c) = true)
    (by simp [Leading, isDigit_iff_isSome])

/-- Canonical digits: `0`, or an optional minus sign before the digits of a positive magnitude. -/
def Canonical (cs : List Char) : Prop :=
  cs = ['0'] ∨ r.Leading cs ∨ ∃ ds, cs = '-' :: ds ∧ r.Leading ds

theorem exists_minus_leading_iff (cs : List Char) :
    (∃ ds, cs = '-' :: ds ∧ r.Leading ds) ↔ cs.head? = some '-' ∧ r.Leading cs.tail := by
  cases cs <;> simp

instance (cs : List Char) : Decidable (r.Canonical cs) :=
  decidable_of_iff (cs = ['0'] ∨ r.Leading cs ∨ (cs.head? = some '-' ∧ r.Leading cs.tail))
    (by rw [Canonical, exists_minus_leading_iff])

example : Radix.hex.Canonical ['-', '1', 'F'] ∧ Radix.decimal.Canonical ['0'] ∧
    ¬Radix.hex.Canonical ['-', '0'] ∧ ¬Radix.hex.Canonical ['f', 'f'] ∧
    ¬Radix.decimal.Canonical ['+', '5'] ∧ ¬Radix.decimal.Canonical ['0', '7'] := by decide

variable {r}

theorem isDigit_of_digitValue? {c : Char} {d : Nat} (h : r.digitValue? c = some d) :
    r.IsDigit c := by
  rw [digitValue?_eq] at h
  by_contra hc
  rw [if_neg hc] at h
  cases h

theorem digitValue?_of_isDigit {c : Char} (h : r.IsDigit c) : r.digitValue? c = some (digitOf c) := by
  rw [digitValue?_eq, if_pos h]

theorem digitValue?_lt {c : Char} {d : Nat} (h : r.digitValue? c = some d) : d < r.base := by
  unfold digitValue? at h
  simp only [Option.filter_eq_some_iff, decide_eq_true_eq] at h
  exact h.2

theorem toNat_lt_of_digitValue? {c : Char} {d : Nat} (h : r.digitValue? c = some d) :
    c.toNat < 128 := by
  -- every digit lies at or below `f`
  have hle : c ≤ 'f' := by
    unfold digitValue? at h
    split_ifs at h with h09 haf hAF
    · exact Char.le_trans h09.2 (by decide)
    · exact haf.2
    · exact Char.le_trans hAF.2 (by decide)
    · cases h
  have hval := Char.le_def.1 hle
  rw [UInt32.le_iff_toNat_le] at hval
  exact Nat.lt_of_le_of_lt hval (by decide)

theorem digitValue?_upper {k : Nat} (hk : k < r.base) :
    r.digitValue? (Nat.digitChar k).toUpper = some k := by
  cases r with
  | hex =>
    exact (by decide : ∀ k : Fin 16, hex.digitValue? (Nat.digitChar k.val).toUpper = some k.val)
      ⟨k, hk⟩
  | decimal =>
    exact (by decide : ∀ k : Fin 10, decimal.digitValue? (Nat.digitChar k.val).toUpper = some k.val)
      ⟨k, hk⟩

theorem toUpper_upper_digitChar {k : Nat} (hk : k < r.base) :
    (Nat.digitChar k).toUpper.toUpper = (Nat.digitChar k).toUpper := by
  have hk16 : k < 16 := Nat.lt_of_lt_of_le hk r.base_le_sixteen
  exact (by decide : ∀ k : Fin 16, (Nat.digitChar k).toUpper.toUpper = (Nat.digitChar k).toUpper)
    ⟨k, hk16⟩

theorem upper_digitChar_ne_zero {k : Nat} (hk : k < r.base) (hpos : 0 < k) :
    (Nat.digitChar k).toUpper ≠ '0' := by
  have hk16 : k < 16 := Nat.lt_of_lt_of_le hk r.base_le_sixteen
  intro h
  exact Nat.ne_of_gt hpos
    ((by decide : ∀ k : Fin 16, (Nat.digitChar k).toUpper = '0' → k.val = 0) ⟨k, hk16⟩ h)

theorem upper_digitChar_of_digitValue? {c : Char} {d : Nat} (h : r.digitValue? c = some d)
    (hc : c.toUpper = c) : (Nat.digitChar d).toUpper = c := by
  obtain ⟨n, rfl⟩ : ∃ n : Fin 128, Char.ofNat n = c :=
    ⟨⟨c.toNat, toNat_lt_of_digitValue? h⟩, Char.ofNat_toNat c⟩
  have hall : ∀ n : Fin 128, ((r.digitValue? (Char.ofNat n)).all fun d =>
      (Char.ofNat n).toUpper != Char.ofNat n || (Nat.digitChar d).toUpper == Char.ofNat n) := by
    cases r <;> decide
  have hn := hall n
  rw [h] at hn
  simpa [hc] using hn

theorem digitChar_of_mem_toDigits {b n : Nat} (hb : 1 < b) {c : Char} (hc : c ∈ Nat.toDigits b n) :
    ∃ k < b, c = Nat.digitChar k := by
  induction n using Nat.base_induction b hb with
  | single m hm => exact ⟨m, hm, by simpa [Nat.toDigits_of_lt_base hm] using hc⟩
  | digit m k hk hm ih =>
    rw [← Nat.toDigits_append_toDigits hb hm hk, Nat.toDigits_of_lt_base hk] at hc
    rcases List.mem_append.1 hc with hc | hc
    · exact ih hc
    · exact ⟨k, hk, List.mem_singleton.1 hc⟩

variable (r)

theorem upperDigits_of_lt {k : Nat} (hk : k < r.base) :
    r.upperDigits k = [(Nat.digitChar k).toUpper] := by
  rw [upperDigits, Nat.toDigits_of_lt_base hk, List.map_singleton]

theorem upperDigits_zero : r.upperDigits 0 = ['0'] := by
  rw [upperDigits_of_lt r (Nat.zero_lt_of_lt r.one_lt_base)]
  rfl

theorem upperDigits_ne_nil (n : Nat) : r.upperDigits n ≠ [] := by
  simp [upperDigits]

theorem upperDigits_base_mul_add {m k : Nat} (hm : 0 < m) (hk : k < r.base) :
    r.upperDigits (r.base * m + k) = r.upperDigits m ++ [(Nat.digitChar k).toUpper] := by
  rw [upperDigits, ← Nat.toDigits_append_toDigits r.one_lt_base hm hk, List.map_append,
    Nat.toDigits_of_lt_base hk, List.map_singleton, upperDigits]

theorem decimal_upperDigits (n : Nat) : decimal.upperDigits n = Nat.toDigits 10 n := by
  refine (List.map_congr_left fun c hc => ?_).trans (List.map_id _)
  obtain ⟨k, hk, rfl⟩ := digitChar_of_mem_toDigits (by decide) hc
  exact (by decide : ∀ k : Fin 10, (Nat.digitChar k).toUpper = Nat.digitChar k) ⟨k, hk⟩

variable {r}

theorem upper_digitChar_of_mem {n : Nat} {c : Char} (hc : c ∈ r.upperDigits n) :
    ∃ k < r.base, c = (Nat.digitChar k).toUpper := by
  obtain ⟨c', hc', rfl⟩ := List.mem_map.1 hc
  obtain ⟨k, hk, rfl⟩ := digitChar_of_mem_toDigits r.one_lt_base hc'
  exact ⟨k, hk, rfl⟩

theorem isDigit_of_mem_upperDigits {n : Nat} {c : Char} (hc : c ∈ r.upperDigits n) :
    r.IsDigit c := by
  obtain ⟨k, hk, rfl⟩ := upper_digitChar_of_mem hc
  exact isDigit_of_digitValue? (digitValue?_upper hk)

theorem head?_upperDigits {n : Nat} (hn : 0 < n) : (r.upperDigits n).head? ≠ some '0' := by
  induction n using Nat.base_induction r.base r.one_lt_base with
  | single m hm =>
    rw [upperDigits_of_lt r hm]
    simpa using upper_digitChar_ne_zero hm hn
  | digit m k hk hm ih =>
    rw [upperDigits_base_mul_add r hm hk, List.head?_append_of_ne_nil _ (r.upperDigits_ne_nil m)]
    exact ih hm

theorem leading_upperDigits {n : Nat} (hn : 0 < n) : r.Leading (r.upperDigits n) := by
  refine ⟨r.upperDigits_ne_nil n, head?_upperDigits hn, fun c hc => ⟨isDigit_of_mem_upperDigits hc, ?_⟩⟩
  obtain ⟨k, hk, rfl⟩ := upper_digitChar_of_mem hc
  exact toUpper_upper_digitChar hk

theorem positional_append_singleton (cs : List Char) (c : Char) :
    Numeral.positional r (cs ++ [c]) =
      (Numeral.positional r cs).bind fun acc => (r.digitValue? c).map (acc * r.base + ·) := by
  simp [Numeral.positional, List.foldlM_append]

theorem positional_upperDigits (n : Nat) : Numeral.positional r (r.upperDigits n) = some n := by
  induction n using Nat.base_induction r.base r.one_lt_base with
  | single m hm =>
    rw [upperDigits_of_lt r hm]
    simp [Numeral.positional, digitValue?_upper hm]
  | digit m k hk hm ih =>
    rw [upperDigits_base_mul_add r hm hk, positional_append_singleton, ih, Option.bind_some,
      digitValue?_upper hk, Option.map_some, Nat.mul_comm]

theorem upperDigits_foldlM {cs : List Char} (hcs : ∀ c ∈ cs, r.IsDigit c ∧ c.toUpper = c)
    {acc n : Nat} (hacc : 0 < acc)
    (h : cs.foldlM (fun acc c => (r.digitValue? c).map fun d => acc * r.base + d) acc = some n) :
    r.upperDigits acc ++ cs = r.upperDigits n := by
  induction cs generalizing acc with
  | nil =>
    cases h
    simp
  | cons c cs ih =>
    obtain ⟨hc, hcu⟩ := hcs c List.mem_cons_self
    have hd := digitValue?_of_isDigit hc
    rw [List.foldlM_cons, hd, Option.map_some, Option.bind_eq_bind, Option.bind_some,
      Nat.mul_comm] at h
    have hstep : r.upperDigits (r.base * acc + digitOf c) = r.upperDigits acc ++ [c] := by
      rw [upperDigits_base_mul_add r hacc (digitValue?_lt hd), upper_digitChar_of_digitValue? hd hcu]
    have hpos : 0 < r.base * acc + digitOf c :=
      Nat.add_pos_left (Nat.mul_pos (Nat.zero_lt_of_lt r.one_lt_base) hacc) _
    calc r.upperDigits acc ++ c :: cs = (r.upperDigits acc ++ [c]) ++ cs := by simp
      _ = r.upperDigits (r.base * acc + digitOf c) ++ cs := by rw [hstep]
      _ = r.upperDigits n := ih (fun x hx => hcs x (List.mem_cons_of_mem _ hx)) hpos h

theorem upperDigits_of_leading {ds : List Char} (h : r.Leading ds) {n : Nat}
    (hn : Numeral.positional r ds = some n) : r.upperDigits n = ds := by
  obtain ⟨hne, hhead, hall⟩ := h
  obtain ⟨c, cs, rfl⟩ := List.exists_cons_of_ne_nil hne
  obtain ⟨hc, hcu⟩ := hall c List.mem_cons_self
  have hd := digitValue?_of_isDigit hc
  -- the first digit is not `0`, so it is worth something
  have hpos : 0 < digitOf c := by
    refine Nat.pos_of_ne_zero fun h0 => hhead ?_
    rw [List.head?_cons, ← upper_digitChar_of_digitValue? hd hcu, h0]
    rfl
  unfold Numeral.positional at hn
  rw [List.foldlM_cons, hd, Option.map_some, Option.bind_eq_bind, Option.bind_some, Nat.zero_mul,
    Nat.zero_add] at hn
  have hrest := upperDigits_foldlM (fun x hx => hall x (List.mem_cons_of_mem _ hx)) hpos hn
  rw [upperDigits_of_lt r (digitValue?_lt hd), upper_digitChar_of_digitValue? hd hcu] at hrest
  exact hrest.symm

theorem positional_zero : Numeral.positional r ['0'] = some 0 := by
  have h0 : r.digitValue? '0' = some 0 := digitValue?_upper (Nat.zero_lt_of_lt r.one_lt_base)
  simp [Numeral.positional, h0]

theorem upperDigits_eq_iff {ds : List Char} {n : Nat} (hn : Numeral.positional r ds = some n) :
    r.upperDigits n = ds ↔ ds = ['0'] ∨ r.Leading ds := by
  constructor
  · rintro rfl
    rcases Nat.eq_zero_or_pos n with rfl | hpos
    · exact .inl r.upperDigits_zero
    · exact .inr (leading_upperDigits hpos)
  · rintro (rfl | hlead)
    · rw [positional_zero] at hn
      cases hn
      exact r.upperDigits_zero
    · exact upperDigits_of_leading hlead hn

theorem pos_of_leading {ds : List Char} (h : r.Leading ds) {n : Nat}
    (hn : Numeral.positional r ds = some n) : 0 < n := by
  refine Nat.pos_of_ne_zero fun h0 => h.2.1 ?_
  rw [← upperDigits_of_leading h hn, h0, upperDigits_zero]
  rfl

theorem not_leading_sign {c : Char} {ds : List Char} (h : r.Leading (c :: ds)) :
    c ≠ '+' ∧ c ≠ '-' := by
  have hc := (h.2.2 c List.mem_cons_self).1
  exact ⟨fun hp => r.not_isDigit_sign.1 (hp ▸ hc), fun hm => r.not_isDigit_sign.2 (hm ▸ hc)⟩

theorem canonical_plus {ds : List Char} : ¬r.Canonical ('+' :: ds) := by
  rintro (h | h | ⟨ds', h, -⟩)
  · exact absurd (List.cons.inj h).1 (by decide)
  · exact (not_leading_sign h).1 rfl
  · exact absurd (List.cons.inj h).1 (by decide)

theorem canonical_minus_iff {ds : List Char} : r.Canonical ('-' :: ds) ↔ r.Leading ds := by
  constructor
  · rintro (h | h | ⟨ds', h, hlead⟩)
    · exact absurd (List.cons.inj h).1 (by decide)
    · exact absurd rfl (not_leading_sign h).2
    · rwa [(List.cons.inj h).2]
  · exact fun h => .inr (.inr ⟨ds, rfl, h⟩)

theorem canonical_unsigned_iff {ds : List Char} (hds : ∀ c ∈ ds, r.IsDigit c) :
    r.Canonical ds ↔ ds = ['0'] ∨ r.Leading ds := by
  have hminus : ¬∃ ds', ds = '-' :: ds' ∧ r.Leading ds' := by
    rintro ⟨ds', rfl, -⟩
    exact r.not_isDigit_sign.2 (hds '-' List.mem_cons_self)
  rw [Canonical, ← or_assoc, or_iff_left hminus]

/-- A signed literal is written back as it stands exactly when its digits are canonical: without a
sign when its digits are those of their value, never after a plus sign, and after a minus sign
when its digits are those of a positive magnitude. -/
theorem signed_written_iff {sign ds : List Char} (hsign : sign = [] ∨ sign = ['+'] ∨ sign = ['-'])
    (hds : ∀ c ∈ ds, r.IsDigit c) {n : Nat} (hn : Numeral.positional r ds = some n) :
    signOf ((if sign = ['-'] then -1 else 1) * (n : Int)) ++ r.upperDigits n = sign ++ ds ↔
      r.Canonical (sign ++ ds) := by
  have hnonneg : signOf (n : Int) = [] := if_neg (Int.not_lt.2 (Int.natCast_nonneg n))
  rcases hsign with rfl | rfl | rfl
  · rw [if_neg (by decide), Int.one_mul, hnonneg, List.nil_append, List.nil_append,
      upperDigits_eq_iff hn, canonical_unsigned_iff hds]
  · -- a plus sign is never written, and is no digit
    rw [if_neg (by decide), Int.one_mul, hnonneg, List.nil_append]
    refine iff_of_false (fun h => ?_) canonical_plus
    have hplus : '+' ∈ r.upperDigits n := by
      rw [h, List.singleton_append]
      exact List.mem_cons_self
    exact r.not_isDigit_sign.1 (isDigit_of_mem_upperDigits hplus)
  · rw [if_pos rfl, List.singleton_append, canonical_minus_iff]
    rcases Nat.eq_zero_or_pos n with rfl | hpos
    · -- a minus sign before a zero magnitude is neither written nor canonical
      refine iff_of_false (by simp [signOf, upperDigits_zero]) fun hlead => ?_
      exact absurd (pos_of_leading hlead hn) (Nat.lt_irrefl 0)
    · have hneg : signOf (-1 * (n : Int)) = ['-'] := if_pos (by omega)
      rw [hneg, List.singleton_append, List.cons.injEq, upperDigits_eq_iff hn]
      refine ⟨fun h => h.2.resolve_left fun hzero => ?_, fun h => ⟨rfl, .inr h⟩⟩
      rw [hzero, positional_zero] at hn
      cases hn
      exact Nat.lt_irrefl 0 hpos

variable (r)

theorem render_eq (v : Int) :
    r.render v = r.marker.toString ++ String.ofList (signOf v ++ r.upperDigits v.natAbs) := by
  rw [String.ofList_append]
  cases r with
  | hex =>
    simp only [render, marker, signOf, upperDigits, base, String.append_assoc]
    split_ifs <;> rfl
  | decimal =>
    rw [render, decimal_upperDigits, Int.toString_eq_repr, Int.repr_eq_if,
      ← Nat.repr_eq_ofList_toDigits, signOf]
    by_cases hv : v < 0
    · rw [if_neg (by omega), if_pos hv, show (-v).toNat = v.natAbs by omega]
      rfl
    · rw [if_pos (by omega), if_neg hv, show v.toNat = v.natAbs by omega]
      rfl

theorem showBound_decimal_long {v : Int} (h : 10 ^ Text.digitLimit ≤ v.natAbs) :
    decimal.showBound v = .error (Text.IntegerFault.tooLongToShow.message "") := by
  unfold showBound Text.showInteger
  rw [Nat.pow_eq, if_pos h]

/-- The digits of a bound's text denote the bound; reading them gives it back unless it is a decimal
of at least `10 ^ Text.digitLimit`. -/
theorem boundDigits_read (v : Int) :
    (Numeral.mk r (String.ofList (signOf v ++ r.upperDigits v.natAbs))).value? = some v ∧
    ((Numeral.mk r (String.ofList (signOf v ++ r.upperDigits v.natAbs))).toInt = .ok v ↔
      r = .hex ∨ v.natAbs < 10 ^ Text.digitLimit) := by
  have hcs : (Numeral.mk r (String.ofList (signOf v ++ r.upperDigits v.natAbs))).digits.toList =
      signOf v ++ r.upperDigits v.natAbs := String.toList_ofList
  have hsign : signOf v = [] ∨ signOf v = ['+'] ∨ signOf v = ['-'] := by
    unfold signOf
    split <;> simp
  have hds : ∀ c ∈ r.upperDigits v.natAbs, r.IsDigit c := fun _ hc => isDigit_of_mem_upperDigits hc
  have hne := r.upperDigits_ne_nil v.natAbs
  have hmagnitude : r.positionalValue (r.upperDigits v.natAbs) = v.natAbs := by
    have h := r.positional_upperDigits v.natAbs
    rw [positional_eq, if_pos hds] at h
    exact Option.some.inj h
  have hvalue : (Numeral.mk r (String.ofList (signOf v ++ r.upperDigits v.natAbs))).value? =
      some v := by
    refine (Numeral.value?_eq_some_iff _ v).2 ⟨_, _, hcs, hsign, hne, hds, ?_⟩
    rw [hmagnitude, signOf]
    by_cases hv : v < 0
    · rw [if_pos hv, if_pos rfl]
      omega
    · rw [if_neg hv, if_neg (by decide)]
      omega
  refine ⟨hvalue, ?_⟩
  rw [Numeral.toInt_eq_ok_iff_value?, Numeral.digitCount_signed hcs hsign hne hds,
    and_iff_right hvalue]
  -- only decimal digits are counted, and they are too many exactly from `10 ^ digitLimit` on
  cases r with
  | hex => exact iff_of_true (fun h => nomatch h.1) (.inl rfl)
  | decimal =>
    have hlen : (decimal.upperDigits v.natAbs).length ≤ Text.digitLimit ↔
        v.natAbs < 10 ^ Text.digitLimit := by
      rw [upperDigits, List.length_map]
      exact Nat.length_toDigits_le_iff (b := 10) (k := Text.digitLimit) (by decide) (by decide)
    rw [← hlen, Nat.le_iff_lt_or_eq]
    simp only [true_and, reduceCtorEq, false_or]
    omega

theorem positionalValue_lt {ds : List Char} (hds : ∀ c ∈ ds, r.IsDigit c) :
    r.positionalValue ds < r.base ^ ds.length := by
  induction ds with
  | nil => simp [positionalValue]
  | cons c cs ih =>
    have hc : digitOf c < r.base := hds c List.mem_cons_self
    have hcs := ih fun d hd => hds d (List.mem_cons_of_mem c hd)
    rw [positionalValue_cons, List.length_cons, pow_succ']
    calc digitOf c * r.base ^ cs.length + r.positionalValue cs
        < (digitOf c + 1) * r.base ^ cs.length := by rw [Nat.succ_mul]; omega
      _ ≤ r.base * r.base ^ cs.length := Nat.mul_le_mul_right _ hc

end Radix

theorem Numeral.natAbs_lt_of_toInt {lit : Numeral} {v : Int} (h : lit.toInt = .ok v) :
    lit.radix = .hex ∨ v.natAbs < 10 ^ Text.digitLimit := by
  obtain ⟨sign, ds, -, -, -, hds, hlimit, rfl⟩ := (Numeral.toInt_eq_ok_iff lit v).1 h
  have hmag : ((if sign = ['-'] then -1 else 1) * (lit.radix.positionalValue ds : Int)).natAbs =
      lit.radix.positionalValue ds := by
    split <;> simp
  have hlt := lit.radix.positionalValue_lt hds
  rw [hmag]
  cases hr : lit.radix with
  | hex => exact .inl rfl
  | decimal =>
    rw [hr] at hlt hlimit
    have hlen : ds.length ≤ Text.digitLimit := by simpa using hlimit
    exact .inr (calc Radix.decimal.positionalValue ds < 10 ^ ds.length := hlt
      _ ≤ 10 ^ Text.digitLimit := Nat.pow_le_pow_right (by norm_num) hlen)

theorem render_eq_text_iff {lit : Numeral} {v : Int} (h : lit.value? = some v) :
    lit.radix.render v = lit.text ↔ lit.radix.Canonical lit.digits.toList := by
  obtain ⟨sign, ds, hcs, hsign, -, hds, rfl⟩ := (Numeral.value?_eq_some_iff lit v).1 h
  have hn : Numeral.positional lit.radix ds = some (lit.radix.positionalValue ds) := by
    rw [Radix.positional_eq, if_pos hds]
  have habs : ((if sign = ['-'] then -1 else 1) * (lit.radix.positionalValue ds : Int)).natAbs =
      lit.radix.positionalValue ds := by
    split <;> simp
  rw [Radix.render_eq, habs, Numeral.text, String.append_right_inj, ← String.toList_inj,
    String.toList_ofList, hcs]
  exact Radix.signed_written_iff hsign hds hn

/-- Bounds round-trip through literals. A hexadecimal bound, or a decimal one below
`10 ^ Text.digitLimit`, shows as its marker and digits that read back as it; a larger decimal is
refused. A literal that reads as `v` shows back as it stands exactly when its digits are canonical. -/
theorem showBound_round_trip (r : Radix) (v : Int) (lit : Numeral) :
    ((r = .hex ∨ v.natAbs < 10 ^ Text.digitLimit) →
      ∃ ds : String, r.showBound v = .ok (r.marker.toString ++ ds) ∧
        (Numeral.mk r ds).isWellFormed = true ∧ (Numeral.mk r ds).toInt = .ok v) ∧
    (r = .decimal → 10 ^ Text.digitLimit ≤ v.natAbs →
      r.showBound v = .error (Text.IntegerFault.tooLongToShow.message "")) ∧
    (lit.toInt = .ok v →
      (lit.radix.showBound v = .ok lit.text ↔ lit.radix.Canonical lit.digits.toList)) := by
  refine ⟨fun hshort => ?_, fun hr hlong => hr ▸ Radix.showBound_decimal_long hlong, fun h => ?_⟩
  · -- a short bound shows as it renders, and its rendered digits read back
    have hshow : r.showBound v = .ok (r.render v) := by
      rcases hshort with rfl | hlt
      · rfl
      · exact r.showBound_of_lt hlt
    obtain ⟨hvalue, hread⟩ := r.boundDigits_read v
    refine ⟨_, by rw [hshow, r.render_eq], ?_, hread.2 hshort⟩
    rw [Numeral.isWellFormed, hvalue]
    rfl
  · have hshow : lit.radix.showBound v = .ok (lit.radix.render v) := by
      rcases Numeral.natAbs_lt_of_toInt h with hr | hlt
      · rw [hr]
        rfl
      · exact lit.radix.showBound_of_lt hlt
    rw [hshow, Except.ok.injEq]
    exact render_eq_text_iff (Numeral.toInt_eq_value lit v h)

theorem showBound_round_trip_negative_hex :
    (Numeral.mk .hex "-1F").toInt = .ok (-31) ∧
    (Radix.hex.showBound (-31) = .ok (Numeral.mk .hex "-1F").text ↔
      Radix.hex.Canonical (Numeral.mk .hex "-1F").digits.toList) :=
  have h : (Numeral.mk .hex "-1F").toInt = .ok (-31) := by decide
  ⟨h, (showBound_round_trip .hex (-31) (Numeral.mk .hex "-1F")).2.2 h⟩

/-- The least decimal bound of more than `Text.digitLimit` digits is not shown, and no decimal
digits read back as it. -/
theorem showBound_long_decimal_unreadable :
    Radix.decimal.showBound (10 ^ Text.digitLimit) =
        .error (Text.IntegerFault.tooLongToShow.message "") ∧
      ¬∃ ds : String, (Numeral.mk .decimal ds).isWellFormed = true ∧
        (Numeral.mk .decimal ds).toInt = .ok (10 ^ Text.digitLimit) := by
  have hmag : ((10 : Int) ^ Text.digitLimit).natAbs = 10 ^ Text.digitLimit := by
    simp [Int.natAbs_pow]
  refine ⟨Radix.showBound_decimal_long hmag.ge, ?_⟩
  rintro ⟨ds, -, hread⟩
  rcases Numeral.natAbs_lt_of_toInt hread with h | h
  · cases h
  · rw [hmag] at h
    exact Nat.lt_irrefl _ h

end Lc3Lint
