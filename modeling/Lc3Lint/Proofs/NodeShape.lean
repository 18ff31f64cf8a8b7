import Mathlib
import Lc3Lint.Proofs.NodePartition
/-! What each statement is, by its leading token, and what the accessors of a well-formed statement
find. -/
namespace Lc3Lint

def Lexeme.standaloneKind? : Lexeme → Option NodeKind
  | .newline => some .blankLine
  | .comment _ => some .comment
  | .label _ => some .label
  | .trapRoutine _ => some .trapRoutine
  | _ => none

def Signature.Fits (s : Signature) (args : List Token) : Prop :=
  args.length = s.arity ∧ ∀ (j : Nat) (a : Token) (o : OperandSet), args[j]? = some a →
    s.operands[j]? = some o →
    ∃ k, a.lexeme.operandKind? = some k ∧ o.accepts k = true

def Signature.misfitMessage (s : Signature) (args : List Token) : String :=
  if args.length ≠ s.arity then
    "Incorrect number of arguments (expected " ++ toString s.arity ++ ", found " ++
      toString args.length ++ ")"
  else
    "Incorrect argument " ++ (if s.arity = 1 then "type" else "types") ++ " (expected " ++
      s.describeOperands ++ ")"

namespace Signature

variable (s : Signature) (args : List Token)

theorem accepted_iff (o : OperandSet) (a : Token) :
    (a.lexeme.operandKind?.map o.accepts).getD false = true ↔
      ∃ k, a.lexeme.operandKind? = some k ∧ o.accepts k = true := by
  cases a.lexeme.operandKind? <;> simp

theorem mismatch?_eq_none_iff : s.mismatch? args = none ↔ s.Fits args := by
  unfold mismatch? Fits
  by_cases hlen : args.length = s.arity
  · simp only [hlen, ne_eq, not_true_eq_false, if_false, true_and]
    constructor
    · intro h j a o ha ho
      split at h
      · simp at h
      · rename_i hany
        simp only [List.any_eq_true, Bool.not_eq_eq_eq_not, Bool.not_true, Prod.exists,
          not_exists, not_and] at hany
        have hmem : (a, o) ∈ args.zip s.operands :=
          List.mem_iff_getElem?.2 ⟨j, List.getElem?_zip_eq_some.2 ⟨ha, ho⟩⟩
        have := hany a o hmem
        rw [← accepted_iff]
        simpa using this
    · intro h
      rw [if_neg]
      simp only [List.any_eq_true, Bool.not_eq_eq_eq_not, Bool.not_true, Prod.exists,
        not_exists, not_and]
      intro a o hmem
      obtain ⟨j, hj⟩ := List.mem_iff_getElem?.1 hmem
      obtain ⟨ha, ho⟩ := List.getElem?_zip_eq_some.1 hj
      have := (accepted_iff o a).2 (h j a o ha ho)
      simp [this]
  · simp [hlen]

theorem mismatch?_eq_some_iff (message : String) :
    s.mismatch? args = some message ↔ ¬ s.Fits args ∧ message = s.misfitMessage args := by
  rw [← mismatch?_eq_none_iff]
  unfold mismatch? misfitMessage
  by_cases hlen : args.length ≠ s.arity
  · simp only [hlen, if_true, Option.some.injEq, ne_eq, reduceCtorEq, not_false_eq_true,
      true_and]
    exact ⟨fun h => by rw [← h]; rfl, fun h => by rw [h]; rfl⟩
  · simp only [hlen, if_false]
    split
    · simp only [Option.some.injEq, reduceCtorEq, not_false_eq_true, true_and]
      exact ⟨fun h => by rw [← h]; rfl, fun h => by rw [h]; rfl⟩
    · simp

end Signature

theorem Lexeme.eq_of_operandKind? {l : Lexeme} {k : OperandKind} (h : l.operandKind? = some k) :
    match k with
    | .register => ∃ r, l = .register r
    | .literal => ∃ lit, l = .number lit
    | .label => ∃ x, l = .label x
    | .string => ∃ text, l = .string text := by
  cases l <;> simp only [Lexeme.operandKind?, reduceCtorEq, Option.some.injEq] at h <;> subst h <;>
    simp

namespace Signature.Fits

variable {s : Signature} {args : List Token} {j : Nat}

theorem get (h : s.Fits args) {o : OperandSet} (ho : s.operands[j]? = some o) :
    ∃ a k, args[j]? = some a ∧ a.lexeme.operandKind? = some k ∧ o.accepts k = true := by
  have hj : j < args.length := by
    rw [h.1, Signature.arity]
    exact (List.getElem?_eq_some_iff.1 ho).1
  obtain ⟨k, hk, hacc⟩ := h.2 j args[j] o (List.getElem?_eq_getElem hj) ho
  exact ⟨args[j], k, List.getElem?_eq_getElem hj, hk, hacc⟩

theorem number (h : s.Fits args) (ho : s.operands[j]? = some .lit) :
    ∃ a lit, args[j]? = some a ∧ a.lexeme = .number lit := by
  obtain ⟨a, k, ha, hk, hacc⟩ := h.get ho
  cases k <;> simp [OperandSet.accepts, OperandSet.lit] at hacc
  obtain ⟨lit, hl⟩ := Lexeme.eq_of_operandKind? hk
  exact ⟨a, lit, ha, hl⟩

theorem string (h : s.Fits args) (ho : s.operands[j]? = some .str) :
    ∃ a text, args[j]? = some a ∧ a.lexeme = .string text := by
  obtain ⟨a, k, ha, hk, hacc⟩ := h.get ho
  cases k <;> simp [OperandSet.accepts, OperandSet.str] at hacc
  obtain ⟨text, hl⟩ := Lexeme.eq_of_operandKind? hk
  exact ⟨a, text, ha, hl⟩

theorem target (h : s.Fits args) (ho : s.operands[j]? = some .target) :
    ∃ a, args[j]? = some a ∧
      ((∃ x, a.lexeme = .label x) ∨ (∃ lit, a.lexeme = .number lit)) := by
  obtain ⟨a, k, ha, hk, hacc⟩ := h.get ho
  cases k <;> simp [OperandSet.accepts, OperandSet.target] at hacc
  case literal => exact ⟨a, ha, .inr (Lexeme.eq_of_operandKind? hk)⟩
  case label => exact ⟨a, ha, .inl (Lexeme.eq_of_operandKind? hk)⟩

theorem regOrLit (h : s.Fits args) (ho : s.operands[j]? = some .regOrLit) :
    ∃ a, args[j]? = some a ∧
      ((∃ r, a.lexeme = .register r) ∨ (∃ lit, a.lexeme = .number lit)) := by
  obtain ⟨a, k, ha, hk, hacc⟩ := h.get ho
  cases k <;> simp [OperandSet.accepts, OperandSet.regOrLit] at hacc
  case register => exact ⟨a, ha, .inl (Lexeme.eq_of_operandKind? hk)⟩
  case literal => exact ⟨a, ha, .inr (Lexeme.eq_of_operandKind? hk)⟩

end Signature.Fits

def Form.ofThird (a : Token) : Form :=
  if a.lexeme.operandKind? = some .register then .register else .immediate

/-- A statement shaped as its leading token says: standing alone, or an instruction or directive that
is malformed exactly when its operands misfit; a malformed one carries one error over its span; a
well-formed one's accessors find the operand kinds they read. -/
structure Node.Shaped (n : Node) : Prop where
  standalone : n.kind = .blankLine ∨ n.kind = .comment ∨ n.kind = .label ∨
      n.kind = .trapRoutine →
    n.token.lexeme.standaloneKind? = some n.kind ∧ n.args = [] ∧ n.diagnostics = []
  instruction : ∀ m, n.token.lexeme = .opcode m →
    (n.kind.isError = true ↔ ¬ m.opcode.signature.Fits n.args) ∧
    (m.opcode.signature.Fits n.args → n.kind = .instruction m.opcode ∧ n.diagnostics = [] ∧
      n.form = if m.opcode = .add ∨ m.opcode = .and then n.args[2]?.map Form.ofThird else none)
  directive : ∀ d, n.token.lexeme = .directive (.known d) →
    (n.kind.isError = true ↔ ¬ d.signature.Fits n.args) ∧
    (d.signature.Fits n.args → n.kind = .directive d ∧ n.diagnostics = [])
  unknown : ∀ name, n.token.lexeme = .directive (.unknown name) → n.kind = .directiveError
  form_some : n.form.isSome = true → n.kind = .instruction .add ∨ n.kind = .instruction .and
  failed : n.kind.isError = true → ∃ message hint,
    n.diagnostics = [{ severity := .error, message, start := n.start, last := n.last, hint }] ∧
    (n.kind = .instructionError → ∃ m, n.token.lexeme = .opcode m ∧
      message = m.opcode.signature.misfitMessage n.args ∧ hint = none) ∧
    (n.kind = .directiveError →
      (∃ d, n.token.lexeme = .directive (.known d) ∧
        message = d.signature.misfitMessage n.args ∧ hint = none) ∨
      (∃ name, n.token.lexeme = .directive (.unknown name) ∧
        message = "Unknown directive `." ++ name ++ "`" ∧
        hint = some ("expected one of " ++ knownDirectives))) ∧
    (n.kind = .unexpectedToken → message = "Unexpected token: " ++ n.token.describe ∧
      hint = if n.token.isComma then some "a comma must be followed by another argument" else none)
  target : n.kind.takesTarget = true → ∃ a, n.args.getLast? = some a ∧
    ((∃ x, a.lexeme = .label x ∧ n.target? = some (.label x)) ∨
      (∃ lit, a.lexeme = .number lit ∧ n.target? = some (.literal lit)))
  immediate : n.form = some .immediate →
    ∃ a lit, n.args[2]? = some a ∧ a.lexeme = .number lit ∧ n.literal? = some lit
  vector : n.kind = .instruction .trap ∨ n.kind = .directive .orig ∨
      n.kind = .directive .fill ∨ n.kind = .directive .blkw →
    ∃ a lit, n.args[0]? = some a ∧ a.lexeme = .number lit ∧ n.literal? = some lit
  string : n.kind = .directive .stringz →
    ∃ a text, n.args[0]? = some a ∧ a.lexeme = .string text ∧ n.string? = some text

theorem NodeKind.takesTarget_instruction (op : Opcode) :
    (NodeKind.instruction op).takesTarget = op.isSymbolic := by
  cases op <;> decide

theorem Opcode.last_operand_target {op : Opcode} (h : op.isSymbolic = true) :
    op.signature.operands.getLast? = some .target := by
  cases op <;> simp_all [Opcode.isSymbolic, Opcode.signature]

theorem Opcode.third_operand {op : Opcode} (h : op = .add ∨ op = .and) :
    op.signature.operands[2]? = some .regOrLit := by
  rcases h with rfl | rfl <;> rfl

theorem shaped_of_opcode {t : Token} {m : Mnemonic} (ht : t.lexeme = .opcode m) (i : Nat)
    (args : List Token) : (Node.ofLeading t i args).Shaped := by
  have htok := Node.ofLeading_token t i args
  have hargs : (Node.ofLeading t i args).args = args := by
    simp [Node.ofLeading_args, Token.takesOperands, ht]
  by_cases hfit : m.opcode.signature.Fits args
  · have hnone := (Signature.mismatch?_eq_none_iff _ _).2 hfit
    have hkind : (Node.ofLeading t i args).kind = .instruction m.opcode := by
      simp [Node.ofLeading, ht, hnone]
    have hdiag : (Node.ofLeading t i args).diagnostics = [] := by simp [Node.ofLeading, ht, hnone]
    have hform : (Node.ofLeading t i args).form =
        if m.opcode = .add ∨ m.opcode = .and then args[2]?.map Form.ofThird else none := by
      simp only [Node.ofLeading, ht, hnone]
      split
      · rename_i hadd
        obtain ⟨a, ha, -⟩ := hfit.regOrLit (Opcode.third_operand hadd)
        simp [ha, Form.ofThird]
      · rfl
    generalize Node.ofLeading t i args = n at htok hargs hkind hdiag hform
    subst hargs
    refine ⟨?standalone, ?instruction, ?directive, ?unknown, ?form_some, ?failed, ?target,
      ?immediate, ?vector, ?string⟩
    case standalone => simp [hkind]
    case instruction =>
      intro m' hm'
      obtain rfl : m = m' := by simpa [htok, ht] using hm'
      exact ⟨by simp [hkind, NodeKind.isError, hfit], fun _ => ⟨hkind, hdiag, hform⟩⟩
    case directive => intro d hd; simp [htok, ht] at hd
    case unknown => intro name hd; simp [htok, ht] at hd
    case form_some =>
      intro h
      rw [hform] at h
      split at h
      · rename_i hadd
        rcases hadd with hadd | hadd <;> simp [hkind, hadd]
      · simp at h
    case failed => simp [hkind, NodeKind.isError]
    case target =>
      intro htt
      rw [hkind, NodeKind.takesTarget_instruction] at htt
      have hop := Opcode.last_operand_target htt
      rw [List.getLast?_eq_getElem?] at hop
      obtain ⟨a, ha, hk⟩ := hfit.target hop
      have hlen : m.opcode.signature.operands.length = n.args.length := hfit.1.symm
      rw [hlen, ← List.getLast?_eq_getElem?] at ha
      refine ⟨a, ha, ?_⟩
      have hkt : n.kind.takesTarget = true := by rw [hkind, NodeKind.takesTarget_instruction, htt]
      rcases hk with ⟨x, hx⟩ | ⟨lit, hl⟩
      · exact .inl ⟨x, hx, by simp [Node.target?, hkt, ha, hx]⟩
      · exact .inr ⟨lit, hl, by simp [Node.target?, hkt, ha, hl]⟩
    case immediate =>
      intro h
      have h' := h
      rw [hform] at h'
      split at h'
      · rename_i hadd
        obtain ⟨a, ha, hk⟩ := hfit.regOrLit (Opcode.third_operand hadd)
        rcases hk with ⟨r, hr⟩ | ⟨lit, hl⟩
        · simp [ha, Form.ofThird, hr, Lexeme.operandKind?] at h'
        · exact ⟨a, lit, ha, hl, by
            simp [Node.literal?, Node.literalArg?, h, ha, hl, Option.filter_some]⟩
      · simp at h'
    case vector =>
      intro h
      simp only [hkind, NodeKind.instruction.injEq, reduceCtorEq, or_false] at h
      obtain ⟨a, lit, ha, hl⟩ := hfit.number (j := 0) (by rw [h]; rfl)
      have hform' : n.form = none := by rw [hform, h]; rfl
      exact ⟨a, lit, ha, hl, by
        simp [Node.literal?, Node.literalArg?, hform', hkind, h, ha, hl, Option.filter_some]⟩
    case string => simp [hkind]
  · have hmis := (Signature.mismatch?_eq_some_iff m.opcode.signature args
      (m.opcode.signature.misfitMessage args)).2 ⟨hfit, rfl⟩
    have hn : Node.ofLeading t i args =
        { kind := .instructionError, token := t, index := i, start := t.start,
          last := (args.getLast?.map (·.last)).getD t.last, args := args,
          diagnostics := [⟨.error, m.opcode.signature.misfitMessage args, t.start,
            (args.getLast?.map (·.last)).getD t.last, none⟩] } := by
      simp [Node.ofLeading, ht, hmis]
    rw [hn]
    refine ⟨by simp, fun m' hm' => ?_, fun d hd => by simp [ht] at hd,
      fun name hd => by simp [ht] at hd, by simp, fun _ => ?_, by simp [NodeKind.takesTarget],
      by simp, by simp, by simp⟩
    · obtain rfl : m = m' := by simpa [ht] using hm'
      exact ⟨by simp [NodeKind.isError, hfit], fun h => absurd h hfit⟩
    · exact ⟨_, none, rfl, fun _ => ⟨m, ht, rfl, rfl⟩, by simp, by simp⟩

theorem shaped_of_directive {t : Token} {d : Directive} (ht : t.lexeme = .directive (.known d))
    (i : Nat) (args : List Token) : (Node.ofLeading t i args).Shaped := by
  have htok := Node.ofLeading_token t i args
  have hargs : (Node.ofLeading t i args).args = args := by
    simp [Node.ofLeading_args, Token.takesOperands, ht]
  by_cases hfit : d.signature.Fits args
  · have hnone := (Signature.mismatch?_eq_none_iff _ _).2 hfit
    have hkind : (Node.ofLeading t i args).kind = .directive d := by
      simp [Node.ofLeading, ht, hnone]
    have hdiag : (Node.ofLeading t i args).diagnostics = [] := by simp [Node.ofLeading, ht, hnone]
    have hform : (Node.ofLeading t i args).form = none := by simp [Node.ofLeading, ht, hnone]
    generalize Node.ofLeading t i args = n at htok hargs hkind hdiag hform
    subst hargs
    refine ⟨?standalone, ?instruction, ?directive, ?unknown, ?form_some, ?failed, ?target,
      ?immediate, ?vector, ?string⟩
    case standalone => simp [hkind]
    case instruction => intro m hm; simp [htok, ht] at hm
    case directive =>
      intro d' hd'
      obtain rfl : d = d' := by simpa [htok, ht] using hd'
      exact ⟨by simp [hkind, NodeKind.isError, hfit], fun _ => ⟨hkind, hdiag⟩⟩
    case unknown => intro name hd; simp [htok, ht] at hd
    case form_some => simp [hform]
    case failed => simp [hkind, NodeKind.isError]
    case target => simp [hkind, NodeKind.takesTarget]
    case immediate => simp [hform]
    case vector =>
      intro h
      simp only [hkind, reduceCtorEq, NodeKind.directive.injEq, false_or] at h
      obtain ⟨a, lit, ha, hl⟩ := hfit.number (j := 0) (by rcases h with rfl | rfl | rfl <;> rfl)
      refine ⟨a, lit, ha, hl, ?_⟩
      rcases h with rfl | rfl | rfl <;>
        simp [Node.literal?, Node.literalArg?, hform, hkind, ha, hl, Option.filter_some]
    case string =>
      intro h
      simp only [hkind, NodeKind.directive.injEq] at h
      subst h
      obtain ⟨a, text, ha, hl⟩ := hfit.string (j := 0) rfl
      refine ⟨a, text, ha, hl, ?_⟩
      obtain ⟨rest, hrest⟩ : ∃ rest, n.args = a :: rest := by
        cases hx : n.args with
        | nil => simp [hx] at ha
        | cons b rest => exact ⟨rest, by simp_all⟩
      simp [Node.string?, hkind, hrest, hl]
  · have hmis := (Signature.mismatch?_eq_some_iff d.signature args
      (d.signature.misfitMessage args)).2 ⟨hfit, rfl⟩
    have hn : Node.ofLeading t i args =
        { kind := .directiveError, token := t, index := i, start := t.start,
          last := (args.getLast?.map (·.last)).getD t.last, args := args,
          diagnostics := [⟨.error, d.signature.misfitMessage args, t.start,
            (args.getLast?.map (·.last)).getD t.last, none⟩] } := by
      simp [Node.ofLeading, ht, hmis]
    rw [hn]
    refine ⟨by simp, fun m hm => by simp [ht] at hm, fun d' hd' => ?_,
      fun name hd => by simp [ht] at hd, by simp, fun _ => ?_, by simp [NodeKind.takesTarget],
      by simp, by simp, by simp⟩
    · obtain rfl : d = d' := by simpa [ht] using hd'
      exact ⟨by simp [NodeKind.isError, hfit], fun h => absurd h hfit⟩
    · exact ⟨_, none, rfl, by simp, fun _ => .inl ⟨d, ht, rfl, rfl⟩, by simp⟩

theorem shaped_of_unknown {t : Token} {name : String} (ht : t.lexeme = .directive (.unknown name))
    (i : Nat) (args : List Token) : (Node.ofLeading t i args).Shaped := by
  have hn : Node.ofLeading t i args =
      { kind := .directiveError, token := t, index := i, start := t.start,
        last := (args.getLast?.map (·.last)).getD t.last, args := args,
        diagnostics := [⟨.error, "Unknown directive `." ++ name ++ "`", t.start,
          (args.getLast?.map (·.last)).getD t.last,
          some ("expected one of " ++ knownDirectives)⟩] } := by
    simp only [Node.ofLeading, ht]
    rfl
  rw [hn]
  refine ⟨by simp, fun m hm => by simp [ht] at hm, fun d hd => by simp [ht] at hd,
    fun _ _ => rfl, by simp, fun _ => ?_, by simp [NodeKind.takesTarget], by simp, by simp,
    by simp⟩
  exact ⟨_, _, rfl, by simp, fun _ => .inr ⟨name, ht, rfl, rfl⟩, by simp⟩

theorem shaped_of_standalone {t : Token} {k : NodeKind} (hk : t.lexeme.standaloneKind? = some k)
    (i : Nat) (args : List Token) : (Node.ofLeading t i args).Shaped := by
  have hn : Node.ofLeading t i args =
      { kind := k, token := t, index := i, start := t.start, last := t.last } := by
    cases h : t.lexeme <;> simp [Lexeme.standaloneKind?, h] at hk <;> simp [Node.ofLeading, h, hk]
  have hk' : k = .blankLine ∨ k = .comment ∨ k = .label ∨ k = .trapRoutine := by
    cases h : t.lexeme <;> simp [Lexeme.standaloneKind?, h] at hk <;> simp [← hk]
  rw [hn]
  refine ⟨fun _ => ⟨hk, rfl, rfl⟩, fun m hm => ?_, fun d hd => ?_, fun name hd => ?_, by simp,
    fun h => ?_, fun h => ?_, by simp, fun h => ?_, fun h => ?_⟩
  all_goals dsimp only at *
  · simp [Lexeme.standaloneKind?, hm] at hk
  · simp [Lexeme.standaloneKind?, hd] at hk
  · simp [Lexeme.standaloneKind?, hd] at hk
  all_goals
    rcases hk' with rfl | rfl | rfl | rfl <;> simp [NodeKind.isError, NodeKind.takesTarget] at h

theorem shaped_of_unexpected {t : Token} (hs : t.lexeme.standaloneKind? = none)
    (ht : t.takesOperands = false) (i : Nat) (args : List Token) :
    (Node.ofLeading t i args).Shaped := by
  have hn : Node.ofLeading t i args =
      { kind := .unexpectedToken, token := t, index := i, start := t.start, last := t.last,
        diagnostics := [⟨.error, "Unexpected token: " ++ t.describe, t.start, t.last,
          if t.isComma then some "a comma must be followed by another argument"
          else none⟩] } := by
    cases h : t.lexeme <;> simp [Lexeme.standaloneKind?, Token.takesOperands, h] at hs ht <;>
      simp [Node.ofLeading, h]
  rw [hn]
  refine ⟨by simp, fun m hm => ?_, fun d hd => ?_, fun name hd => ?_, by simp, fun _ => ?_,
    by simp [NodeKind.takesTarget], by simp, by simp, by simp⟩
  all_goals dsimp only at *
  · simp [Token.takesOperands, hm] at ht
  · simp [Token.takesOperands, hd] at ht
  · simp [Token.takesOperands, hd] at ht
  · exact ⟨_, _, rfl, by simp, by simp, fun _ => ⟨rfl, rfl⟩⟩

theorem ofLeading_shaped (t : Token) (i : Nat) (args : List Token) :
    (Node.ofLeading t i args).Shaped := by
  cases h : t.lexeme with
  | opcode m => exact shaped_of_opcode h i args
  | directive d =>
    cases d with
    | known d => exact shaped_of_directive h i args
    | unknown name => exact shaped_of_unknown h i args
  | newline =>
    exact shaped_of_standalone (k := .blankLine) (by simp [Lexeme.standaloneKind?, h]) i args
  | comment _ =>
    exact shaped_of_standalone (k := .comment) (by simp [Lexeme.standaloneKind?, h]) i args
  | label _ =>
    exact shaped_of_standalone (k := .label) (by simp [Lexeme.standaloneKind?, h]) i args
  | trapRoutine _ =>
    exact shaped_of_standalone (k := .trapRoutine) (by simp [Lexeme.standaloneKind?, h]) i args
  | comma | string _ | number _ | register _ =>
    exact shaped_of_unexpected (by simp [Lexeme.standaloneKind?, h])
      (by simp [Token.takesOperands, h]) i args

theorem exists_ofLeading_of_mem_nodesFrom {n : Node} {index : Nat} {l : List Token}
    (h : n ∈ nodesFrom index l) : ∃ t i args, n = Node.ofLeading t i args := by
  induction index, l using nodesFrom.induct with
  | case1 index => simp [nodesFrom] at h
  | case2 index t rest args used hsplit ih =>
    rw [dite_eq_ite] at hsplit
    rw [nodesFrom, hsplit] at h
    rcases List.mem_cons.1 h with h | h
    · exact ⟨t, index, args, h⟩
    · exact ih h

/-- Every statement of every token sequence is shaped as its leading token says (see
`Node.Shaped`). -/
theorem ofTokens_shaped (ts : List Token) : ∀ n ∈ Node.ofTokens ts, n.Shaped := by
  intro n hn
  obtain ⟨t, i, args, rfl⟩ := exists_ofLeading_of_mem_nodesFrom hn
  exact ofLeading_shaped t i args

theorem add_immediate_shaped :
    ∃ n ∈ Node.ofTokens
      [⟨.opcode (.plain .add), ⟨"f", 1, 1⟩, ⟨"f", 1, 3⟩, "ADD"⟩,
        ⟨.register ⟨1⟩, ⟨"f", 1, 5⟩, ⟨"f", 1, 6⟩, "R1"⟩, ⟨.comma, ⟨"f", 1, 7⟩, ⟨"f", 1, 7⟩, ","⟩,
        ⟨.register ⟨1⟩, ⟨"f", 1, 9⟩, ⟨"f", 1, 10⟩, "R1"⟩, ⟨.comma, ⟨"f", 1, 11⟩, ⟨"f", 1, 11⟩, ","⟩,
        ⟨.number ⟨.decimal, "-1"⟩, ⟨"f", 1, 13⟩, ⟨"f", 1, 15⟩, "#-1"⟩],
      n.form = some .immediate ∧ n.Shaped := by
  refine ⟨?n, ?mem, ?_, ofTokens_shaped _ ?n ?mem⟩
  case mem =>
    rw [Node.ofTokens, nodesFrom]
    exact List.mem_cons_self
  decide

end Lc3Lint
