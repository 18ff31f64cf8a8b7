import Mathlib
import Lc3Lint.Node.OfTokens
import Lc3Lint.Token.Scan
/-! Statements of a concatenation: a line end, a comment or a trap routine ends whatever statement
stands before it, so token sequences ending with one parse on their own. -/
namespace Lc3Lint

/-- Whether a token ends the statement before it: a line end, a comment or a trap routine. -/
def Token.endsStatement (t : Token) : Bool :=
  match t.lexeme with
  | .newline | .comment _ | .trapRoutine _ => true
  | _ => false

namespace Token

variable {t : Token}

theorem isOperand_of_endsStatement (h : t.endsStatement = true) : t.isOperand = false := by
  unfold endsStatement at h
  split at h <;> simp_all [isOperand, Lexeme.operandKind?]

theorem isComma_of_endsStatement (h : t.endsStatement = true) : t.isComma = false := by
  unfold endsStatement at h
  split at h <;> simp_all [isComma]

theorem takesOperands_of_endsStatement (h : t.endsStatement = true) : t.takesOperands = false := by
  unfold endsStatement at h
  split at h <;> simp_all [takesOperands]

end Token

theorem all_getLast?_drop {l : List Token} (h : l.getLast?.all Token.endsStatement) (k : Nat) :
    (l.drop k).getLast?.all Token.endsStatement := by
  rw [List.getLast?_drop]
  split
  · rfl
  · exact h

theorem all_getLast?_of_cons {t : Token} {l : List Token}
    (h : (t :: l).getLast?.all Token.endsStatement) : l.getLast?.all Token.endsStatement := by
  simpa using all_getLast?_drop h 1

theorem takeOperands_append {l : List Token} (hl : l ≠ [])
    (hend : l.getLast?.all Token.endsStatement) (r : List Token) :
    takeOperands (l ++ r) = takeOperands l ∧ (takeOperands l).2 < l.length := by
  fun_induction takeOperands l with
  | case1 t ht c u tail hcu args used heq ih =>
    -- a comma and an operand follow: the run goes on from that operand, which is not the last
    obtain ⟨happ, hlt⟩ := ih (List.cons_ne_nil u tail)
      (all_getLast?_of_cons (all_getLast?_of_cons hend))
    rw [List.cons_append] at happ
    rw [List.cons_append, List.cons_append, List.cons_append, takeOperands, if_pos ht, if_pos hcu,
      happ, heq]
    rw [heq] at hlt
    simp only [List.length_cons] at hlt ⊢
    exact ⟨trivial, by omega⟩
  | case2 t ht c u tail hcu =>
    simp [takeOperands, ht, hcu]
  | case3 t ht c =>
    -- `c` is the last token, so it is no comma and the run stops at `t`
    have hc : c.isComma = false := Token.isComma_of_endsStatement (by simpa using hend)
    cases r with
    | nil => simp [takeOperands, ht]
    | cons u r => simp [takeOperands, ht, hc]
  | case4 t ht =>
    have : t.isOperand = false := Token.isOperand_of_endsStatement (by simpa using hend)
    simp_all
  | case5 t rest ht =>
    rw [List.cons_append, takeOperands.eq_def]
    simp [ht]
  | case6 => exact absurd rfl hl

theorem nodesFrom_append {ts₁ : List Token} (h : ts₁.getLast?.all Token.endsStatement)
    (ts₂ : List Token) (i : Nat) :
    nodesFrom i (ts₁ ++ ts₂) = nodesFrom i ts₁ ++ nodesFrom (i + ts₁.length) ts₂ := by
  induction i, ts₁ using nodesFrom.induct with
  | case1 i => simp [nodesFrom]
  | case2 i t rest args used hsplit ih =>
    rw [dite_eq_ite] at hsplit
    have hrest := all_getLast?_of_cons h
    -- the leading token's operands, and how many tokens they take, do not see `ts₂`
    have hrun : (if t.takesOperands then takeOperands (rest ++ ts₂) else ([], 0)) =
        (args, used) ∧ used ≤ rest.length := by
      by_cases ht : t.takesOperands = true
      · -- `t` takes operands, so it is not the last token and `rest` is not empty
        have hne : rest ≠ [] := by
          rintro rfl
          simp [Token.takesOperands_of_endsStatement (by simpa using h)] at ht
        obtain ⟨happ, hlt⟩ := takeOperands_append hne hrest ts₂
        rw [if_pos ht] at hsplit ⊢
        rw [happ, hsplit]
        rw [hsplit] at hlt
        exact ⟨rfl, by omega⟩
      · rw [if_neg ht] at hsplit ⊢
        exact ⟨hsplit, by simp only [Prod.mk.injEq] at hsplit; omega⟩
    rw [List.cons_append, nodesFrom, hrun.1, nodesFrom, hsplit]
    dsimp only
    rw [List.drop_append_of_le_length hrun.2, ih (all_getLast?_drop hrest used)]
    simp only [List.cons_append, List.length_drop, List.length_cons]
    congr 3
    omega

theorem Node.ofLeading_reindex (t : Token) (i j : Nat) (args : List Token) :
    Node.ofLeading t j args = { Node.ofLeading t i args with index := j } := by
  unfold Node.ofLeading
  split
  case h_1 m _ => cases m.opcode.signature.mismatch? args <;> rfl
  case h_3 d _ => cases d.signature.mismatch? args <;> rfl
  all_goals rfl

theorem nodesFrom_add (i k : Nat) (ts : List Token) :
    nodesFrom (i + k) ts = (nodesFrom i ts).map fun n => { n with index := n.index + k } := by
  induction i, ts using nodesFrom.induct with
  | case1 i => simp [nodesFrom]
  | case2 i t rest args used hsplit ih =>
    rw [dite_eq_ite] at hsplit
    rw [nodesFrom, nodesFrom, hsplit]
    dsimp only
    rw [List.map_cons,
      show i + k + 1 + used = i + 1 + used + k by omega, ih,
      Node.ofLeading_reindex t i (i + k), Node.ofLeading_index]

/-- Parsing distributes over concatenation at statement boundaries: when `ts₁` is empty or ends with
a line end, a comment or a trap routine, the statements of `ts₁ ++ ts₂` are those of `ts₁`, then
those of `ts₂` with indices shifted by the length of `ts₁`. -/
theorem ofTokens_append {ts₁ : List Token} (h : ts₁.getLast?.all Token.endsStatement)
    (ts₂ : List Token) :
    Node.ofTokens (ts₁ ++ ts₂) =
      Node.ofTokens ts₁ ++ (Node.ofTokens ts₂).map fun n => { n with index := n.index + ts₁.length } := by
  have hshift := nodesFrom_add 0 ts₁.length ts₂
  rw [Nat.zero_add] at hshift
  rw [Node.ofTokens, nodesFrom_append h, Nat.zero_add, hshift]
  rfl

theorem ofTokens_append_after_comment :
    (Token.scan "LD R0, DATA ; load" "f").getLast?.all Token.endsStatement = true ∧
    Node.ofTokens (Token.scan "LD R0, DATA ; load" "f" ++ Token.scan ", R1" "f") =
      Node.ofTokens (Token.scan "LD R0, DATA ; load" "f") ++
        (Node.ofTokens (Token.scan ", R1" "f")).map fun n =>
          { n with index := n.index + (Token.scan "LD R0, DATA ; load" "f").length } :=
  ⟨by decide +kernel, ofTokens_append (by decide +kernel) _⟩

end Lc3Lint
