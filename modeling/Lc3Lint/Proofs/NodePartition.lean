import Mathlib
import Lc3Lint.Node.OfTokens
/-! Statements take their tokens exactly once and in order: every token leads a statement, is an
operand of one, or is a comma between two of its operands. -/
namespace Lc3Lint

theorem Token.isOperand_of_isComma {c : Token} (h : c.isComma = true) : c.isOperand = false := by
  simp only [isComma, beq_iff_eq] at h
  simp [isOperand, h, Lexeme.operandKind?]

structure OperandRun (ts args : List Token) : Prop where
  arg_eq : ∀ j a, args[j]? = some a → ts[2 * j]? = some a
  comma_after : ∀ j, j + 1 < args.length → ∃ c, ts[2 * j + 1]? = some c ∧ c.isComma = true
  operand : ∀ a ∈ args, a.isOperand = true
  none_first : args = [] → ∀ u, ts[0]? = some u → u.isOperand = false
  maximal : ∀ j, args.length = j + 1 → ∀ c u, ts[2 * j + 1]? = some c →
    ts[2 * j + 2]? = some u → ¬ (c.isComma = true ∧ u.isOperand = true)

theorem takeOperands_run (ts : List Token) : OperandRun ts (takeOperands ts).1 := by
  fun_induction takeOperands ts with
  | case1 t ht c u tail hcu args used heq ih =>
    simp only [heq] at ih ⊢
    simp only [Bool.and_eq_true] at hcu
    have hne : args ≠ [] := fun hnil => by
      simp [ih.none_first hnil u rfl] at hcu
    constructor
    · intro j a hj
      cases j with
      | zero => simpa using hj
      | succ j => simpa [Nat.mul_succ] using ih.arg_eq j a (by simpa using hj)
    · intro j hj
      cases j with
      | zero => exact ⟨c, rfl, hcu.1⟩
      | succ j =>
        obtain ⟨d, hd, hdc⟩ := ih.comma_after j (by simpa using hj)
        exact ⟨d, by simpa [Nat.mul_succ] using hd, hdc⟩
    · intro a ha
      rcases List.mem_cons.1 ha with rfl | ha
      · exact ht
      · exact ih.operand a ha
    · simp
    · intro j hj d v hd hv
      cases j with
      | zero => exact absurd (List.length_eq_zero_iff.1 (by simpa using hj)) hne
      | succ j =>
        exact ih.maximal j (by simpa using hj) d v (by simpa [Nat.mul_succ] using hd)
          (by simpa [Nat.mul_succ] using hv)
  | case2 t ht c u tail hcu =>
    refine ⟨?_, ?_, ?_, by simp, ?_⟩
    · intro j a hj
      cases j <;> simp_all
    · simp
    · simpa using ht
    · intro j hj d v hd hv
      have hj0 : j = 0 := by simpa using hj
      subst hj0
      simp only [Nat.mul_zero, Nat.zero_add, List.getElem?_cons_succ, List.getElem?_cons_zero,
        Option.some.injEq] at hd hv
      subst hd hv
      simpa using hcu
  | case3 t ht c =>
    refine ⟨?_, by simp, by simpa using ht, by simp, ?_⟩
    · intro j a hj
      cases j <;> simp_all
    · intro j hj d v _ hv
      simp [show j = 0 by simpa using hj] at hv
  | case4 t ht =>
    refine ⟨?_, by simp, by simpa using ht, by simp, ?_⟩
    · intro j a hj
      cases j <;> simp_all
    · intro j hj d v hd _
      simp [show j = 0 by simpa using hj] at hd
  | case5 t tail ht =>
    refine ⟨by simp, by simp, by simp, ?_, by simp⟩
    intro _ u hu
    obtain rfl : t = u := by simpa using hu
    simpa using ht
  | case6 => exact ⟨by simp, by simp, by simp, by simp, by simp⟩

theorem takeOperands_used (ts : List Token) :
    (takeOperands ts).2 =
      if (takeOperands ts).1 = [] then 0 else 2 * (takeOperands ts).1.length - 1 := by
  fun_induction takeOperands ts with
  | case1 t ht c u tail hcu args used heq ih =>
    have hrun := takeOperands_run (u :: tail)
    simp only [heq] at ih hrun ⊢
    have hne : args ≠ [] := fun hnil => by
      simp only [Bool.and_eq_true] at hcu
      simp [hrun.none_first hnil u rfl] at hcu
    simp only [hne, if_false] at ih
    have hlen : 0 < args.length := List.length_pos_iff.2 hne
    simp only [ih, List.cons_ne_nil, if_false, List.length_cons]
    omega
  | case2 | case3 | case4 | case5 | case6 => simp

def Node.width (n : Node) : Nat := if n.args = [] then 1 else 2 * n.args.length

inductive Part where
  | lead
  | operand (j : Nat)
  | comma (j : Nat)
  deriving DecidableEq, Repr

namespace Node

def partAt? (n : Node) : Part → Option Nat
  | .lead => some n.index
  | .operand j => if j < n.args.length then some (n.index + 2 * j + 1) else none
  | .comma j => if 0 < j ∧ j < n.args.length then some (n.index + 2 * j) else none

variable {n : Node} {p q : Part} {k : Nat}

theorem partAt?_bounds (h : n.partAt? p = some k) : n.index ≤ k ∧ k < n.index + n.width := by
  unfold width
  cases p with
  | lead =>
    simp only [partAt?, Option.some.injEq] at h
    split
    · omega
    · rename_i hne
      have := List.length_pos_iff.2 hne
      omega
  | operand j =>
    simp only [partAt?, Option.ite_none_right_eq_some, Option.some.injEq] at h
    have : n.args ≠ [] := List.ne_nil_of_length_pos (by omega)
    simp only [this, if_false]
    omega
  | comma j =>
    simp only [partAt?, Option.ite_none_right_eq_some, Option.some.injEq] at h
    have : n.args ≠ [] := List.ne_nil_of_length_pos (by omega)
    simp only [this, if_false]
    omega

theorem partAt?_inj (hp : n.partAt? p = some k) (hq : n.partAt? q = some k) : p = q := by
  cases p <;> cases q <;>
    simp only [partAt?, Option.ite_none_right_eq_some, Option.some.injEq] at hp hq <;>
    simp only [Part.operand.injEq, Part.comma.injEq, reduceCtorEq] <;> omega

theorem exists_partAt? (hlo : n.index ≤ k) (hhi : k < n.index + n.width) :
    ∃ p, n.partAt? p = some k := by
  unfold width at hhi
  by_cases hk : k = n.index
  · exact ⟨.lead, by simp [partAt?, hk]⟩
  · have hne : n.args ≠ [] := fun h => by simp [h] at hhi; omega
    simp only [hne, if_false] at hhi
    -- an even distance from the leading token is a comma, an odd one an operand
    by_cases hpar : (k - n.index) % 2 = 0
    · exact ⟨.comma ((k - n.index) / 2), by simp [partAt?]; omega⟩
    · exact ⟨.operand ((k - n.index) / 2), by simp [partAt?]; omega⟩

end Node

/-- The statement `n` reads its tokens from `ts`: its leading token at its index and its `j`-th
operand `2 * j + 1` places after it, with a comma before each operand but the first. -/
structure Node.ReadsFrom (ts : List Token) (n : Node) : Prop where
  token_eq : ts[n.index]? = some n.token
  arg_eq : ∀ j a, n.args[j]? = some a → ts[n.index + 2 * j + 1]? = some a
  comma_before : ∀ j, 0 < j → j < n.args.length →
    ∃ c, ts[n.index + 2 * j]? = some c ∧ c.isComma = true
  operand : ∀ a ∈ n.args, a.isOperand = true
  leads : n.args ≠ [] → n.token.takesOperands = true
  maximal_none : n.token.takesOperands = true → n.args = [] →
    ∀ u, ts[n.index + 1]? = some u → u.isOperand = false
  maximal : n.args ≠ [] → ∀ c u, ts[n.index + 2 * n.args.length]? = some c →
    ts[n.index + 2 * n.args.length + 1]? = some u → ¬ (c.isComma = true ∧ u.isOperand = true)

/-- The statements `ns` read the tokens of `ts` from position `i` on, each where the one before it
ends, every position one part of one statement. -/
structure Partition (ts : List Token) (i : Nat) (ns : List Node) : Prop where
  total : i + (ns.map Node.width).sum = ts.length
  indices : ∀ k (hk : k < ns.length), ns[k].index = i + ((ns.take k).map Node.width).sum
  from_i : ∀ n ∈ ns, i ≤ n.index
  reads : ∀ n ∈ ns, n.ReadsFrom ts
  parts : ∀ k, i ≤ k → k < ts.length →
    ∃! np : Node × Part, np.1 ∈ ns ∧ np.1.partAt? np.2 = some k
  commas : ∀ k c, i ≤ k → ts[k]? = some c → c.isComma = true →
    (∃ n ∈ ns, ∃ j, 0 < j ∧ j < n.args.length ∧ k = n.index + 2 * j) ∨
    (∃ n ∈ ns, n.index = k ∧ n.kind = .unexpectedToken)

namespace Partition

variable {ts : List Token} {i : Nat} {ns : List Node}

theorem nil (h : i = ts.length) : Partition ts i [] where
  total := by simp [h]
  indices k hk := absurd hk (Nat.not_lt_zero k)
  from_i := by simp
  reads := by simp
  parts k hk hkt := by omega
  commas k c hk hc _ := by
    have := (List.getElem?_eq_some_iff.1 hc).1
    omega

theorem cons {n : Node} (hi : n.index = i) (hn : n.ReadsFrom ts)
    (hlead : ∀ c, ts[i]? = some c → c.isComma = true → n.kind = .unexpectedToken)
    (h : Partition ts (i + n.width) ns) : Partition ts i (n :: ns) where
  total := by
    have := h.total
    simp only [List.map_cons, List.sum_cons]
    omega
  indices k hk := by
    cases k with
    | zero => simp [hi]
    | succ k =>
      have := h.indices k (by simpa using hk)
      simp only [List.getElem_cons_succ, List.take_succ_cons, List.map_cons, List.sum_cons]
      omega
  from_i m hm := by
    rcases List.mem_cons.1 hm with heq | hm
    · subst heq
      omega
    · have := h.from_i m hm
      omega
  reads m hm := by
    rcases List.mem_cons.1 hm with heq | hm
    · exact heq ▸ hn
    · exact h.reads m hm
  parts k hk hkt := by
    by_cases hkw : k < i + n.width
    · -- the position lies in `n`, and the later statements all start after it
      obtain ⟨p, hp⟩ : ∃ p, n.partAt? p = some k := n.exists_partAt? (by omega) (by omega)
      refine ⟨(n, p), ⟨List.mem_cons_self, hp⟩, ?_⟩
      rintro ⟨m, q⟩ ⟨hm, hq⟩
      dsimp only at hm hq
      rcases List.mem_cons.1 hm with heq | hm
      · rw [heq] at hq ⊢
        rw [n.partAt?_inj hq hp]
      · have := h.from_i m hm
        have := m.partAt?_bounds hq
        omega
    · obtain ⟨⟨m, p⟩, ⟨hm, hp⟩, huniq⟩ := h.parts k (by omega) hkt
      refine ⟨(m, p), ⟨List.mem_cons_of_mem n hm, hp⟩, ?_⟩
      rintro ⟨m', q⟩ ⟨hm', hq⟩
      dsimp only at hm' hq
      rcases List.mem_cons.1 hm' with heq | hm'
      · rw [heq] at hq
        have := n.partAt?_bounds hq
        omega
      · exact huniq (m', q) ⟨hm', hq⟩
  commas k c hk hc hcomma := by
    rcases Nat.eq_or_lt_of_le hk with rfl | hk
    · exact .inr ⟨n, List.mem_cons_self, hi, hlead c hc hcomma⟩
    · by_cases hkw : k < i + n.width
      · obtain ⟨p, hp⟩ : ∃ p, n.partAt? p = some k := n.exists_partAt? (by omega) (by omega)
        cases p with
        | lead =>
          simp only [Node.partAt?, Option.some.injEq] at hp
          omega
        | operand j =>
          -- an operand is no comma
          simp only [Node.partAt?, Option.ite_none_right_eq_some, Option.some.injEq] at hp
          obtain ⟨hj, hpos⟩ := hp
          have hta := hn.arg_eq j n.args[j] (List.getElem?_eq_getElem hj)
          rw [hpos, hc, Option.some.injEq] at hta
          have hop := hn.operand _ (List.getElem_mem hj)
          rw [← hta, Token.isOperand_of_isComma hcomma] at hop
          exact absurd hop Bool.false_ne_true
        | comma j =>
          simp only [Node.partAt?, Option.ite_none_right_eq_some, Option.some.injEq] at hp
          exact .inl ⟨n, List.mem_cons_self, j, hp.1.1, hp.1.2, hp.2.symm⟩
      · rcases h.commas k c (by omega) hc hcomma with ⟨m, hm, hj⟩ | ⟨m, hm, hk'⟩
        · exact .inl ⟨m, List.mem_cons_of_mem n hm, hj⟩
        · exact .inr ⟨m, List.mem_cons_of_mem n hm, hk'⟩

end Partition

theorem takeOperands_used_le (ts : List Token) : (takeOperands ts).2 ≤ ts.length := by
  fun_induction takeOperands ts with
  | case1 t ht c u tail hcu args used heq ih =>
    simp only [heq] at ih ⊢
    simp only [List.length_cons] at ih ⊢
    omega
  | case2 | case3 | case4 | case5 | case6 => simp

theorem ofLeading_readsFrom {ts rest : List Token} {t : Token} {i : Nat}
    (hts : ts.drop i = t :: rest) :
    (Node.ofLeading t i (if t.takesOperands then (takeOperands rest).1 else [])).ReadsFrom ts := by
  have hlead : ts[i]? = some t := by
    rw [← Nat.add_zero i, ← List.getElem?_drop, hts]
    rfl
  have hat : ∀ x, ts[i + (x + 1)]? = rest[x]? := fun x => by
    rw [← List.getElem?_drop, hts, List.getElem?_cons_succ]
  generalize hn : Node.ofLeading t i (if t.takesOperands then (takeOperands rest).1 else []) = n
  have hi : n.index = i := hn ▸ Node.ofLeading_index ..
  have htok : n.token = t := hn ▸ Node.ofLeading_token ..
  have hargs : n.args = if t.takesOperands then (takeOperands rest).1 else [] := by
    rw [← hn, Node.ofLeading_args]
    split <;> rfl
  by_cases ht : t.takesOperands = true
  · -- operands follow: their positions are those of the operand run, shifted past `t`
    have hrun := takeOperands_run rest
    rw [if_pos ht] at hargs
    refine ⟨by rw [hi, htok]; exact hlead, fun j a hj => ?_, fun j hj hjl => ?_, ?_,
      fun _ => htok ▸ ht, fun _ hnil u hu => ?_, fun hne c u hc hu => ?_⟩
    · rw [hi, show i + 2 * j + 1 = i + (2 * j + 1) by omega, hat]
      exact hrun.arg_eq j a (hargs ▸ hj)
    · obtain ⟨c, hc, hcc⟩ := hrun.comma_after (j - 1) (by rw [hargs] at hjl; omega)
      refine ⟨c, ?_, hcc⟩
      rw [hi, show i + 2 * j = i + (2 * (j - 1) + 1 + 1) by omega, hat]
      exact hc
    · exact hargs ▸ hrun.operand
    · rw [hi, show i + 1 = i + (0 + 1) by omega, hat] at hu
      exact hrun.none_first (hargs ▸ hnil) u hu
    · obtain ⟨m, hm⟩ : ∃ m, (takeOperands rest).1.length = m + 1 :=
        ⟨_, (Nat.succ_pred_eq_of_pos (List.length_pos_iff.2 (hargs ▸ hne))).symm⟩
      rw [hi, hargs, hm, show i + 2 * (m + 1) = i + (2 * m + 1 + 1) by omega, hat] at hc
      rw [hi, hargs, hm, show i + 2 * (m + 1) + 1 = i + (2 * m + 2 + 1) by omega, hat] at hu
      exact hrun.maximal m hm c u hc hu
  · rw [if_neg ht] at hargs
    refine ⟨by rw [hi, htok]; exact hlead, ?_, ?_, ?_, ?_, ?_, ?_⟩ <;> simp [hargs, htok, ht]

theorem width_ofLeading (t : Token) (i : Nat) (rest : List Token) :
    (Node.ofLeading t i (if t.takesOperands then (takeOperands rest).1 else [])).width =
      1 + (if t.takesOperands then takeOperands rest else ([], 0)).2 := by
  unfold Node.width
  rw [Node.ofLeading_args]
  by_cases ht : t.takesOperands = true
  · simp only [ht, if_true, takeOperands_used rest]
    split
    · rfl
    · rename_i hne
      have := List.length_pos_iff.2 hne
      omega
  · simp [ht]

theorem nodesFrom_partition (ts : List Token) (index : Nat) (l : List Token)
    (hl : ts.drop index = l) (hi : index ≤ ts.length) :
    Partition ts index (nodesFrom index l) := by
  induction index, l using nodesFrom.induct with
  | case1 index =>
    rw [nodesFrom]
    exact Partition.nil (by simp at hl; omega)
  | case2 index t rest args used hsplit ih =>
    rw [dite_eq_ite] at hsplit
    have hargs : args = if t.takesOperands then (takeOperands rest).1 else [] := by
      have h1 := congrArg Prod.fst hsplit
      simp only [apply_ite Prod.fst] at h1
      exact h1.symm
    have hused : used = (if t.takesOperands then takeOperands rest else ([], 0)).2 := by
      rw [hsplit]
    have hle : used ≤ rest.length := by
      rw [hused]
      split
      · exact takeOperands_used_le rest
      · exact Nat.zero_le _
    have hlen : ts.length = index + 1 + rest.length := by
      have := congrArg List.length hl
      simp only [List.length_drop, List.length_cons] at this
      omega
    rw [nodesFrom, hsplit]
    refine Partition.cons (Node.ofLeading_index ..) (hargs ▸ ofLeading_readsFrom hl) ?_ ?_
    · intro c hc hcomma
      have hct : c = t := by
        rw [← Nat.add_zero index, ← List.getElem?_drop, hl] at hc
        exact (Option.some.inj hc).symm
      subst hct
      exact Node.ofLeading_kind_of_comma c index args (by simpa [Token.isComma] using hcomma)
    · rw [hargs, width_ofLeading, ← hused, ← Nat.add_assoc]
      refine ih ?_ (by omega)
      rw [Nat.add_assoc, ← List.drop_drop, hl, Nat.add_comm 1 used]
      rfl

theorem partition_ofTokens (ts : List Token) : Partition ts 0 (Node.ofTokens ts) :=
  nodesFrom_partition ts 0 ts rfl (Nat.zero_le _)

/-- Statements take their tokens exactly once and in order. Each statement starts where the ones
before it end, reads its leading token and its operands with commas between them, and every token
is one part of one statement; any other comma leads an unexpected statement. -/
theorem ofTokens_partition (ts : List Token) :
    ((Node.ofTokens ts).map Node.width).sum = ts.length ∧
    (∀ k (hk : k < (Node.ofTokens ts).length),
      (Node.ofTokens ts)[k].index = (((Node.ofTokens ts).take k).map Node.width).sum) ∧
    (∀ n ∈ Node.ofTokens ts, n.ReadsFrom ts) ∧
    (∀ k < ts.length, ∃! np : Node × Part, np.1 ∈ Node.ofTokens ts ∧ np.1.partAt? np.2 = some k) ∧
    (∀ k c, ts[k]? = some c → c.isComma = true →
      (∃ n ∈ Node.ofTokens ts, ∃ j, 0 < j ∧ j < n.args.length ∧ k = n.index + 2 * j) ∨
      (∃ n ∈ Node.ofTokens ts, n.index = k ∧ n.kind = .unexpectedToken)) := by
  have h : Partition ts 0 (Node.ofTokens ts) := nodesFrom_partition ts 0 ts rfl (Nat.zero_le _)
  refine ⟨by simpa using h.total, fun k hk => by simpa using h.indices k hk, h.reads,
    fun k hk => h.parts k (Nat.zero_le k) hk,
    fun k c hc hcomma => h.commas k c (Nat.zero_le k) hc hcomma⟩

end Lc3Lint
