import Mathlib
import Lc3Lint.Proofs.CheckIndependence
import Lc3Lint.Proofs.SourceLines
/-! The literal check, exactly: where a statement's literal stands, which field it is written into,
and what the check attaches, up to the bound on reading a decimal value. -/
namespace Lc3Lint

def NodeKind.literalField? : NodeKind → Option OperandField
  | .instruction .add | .instruction .and => some .imm5
  | .instruction .br | .instruction .ld | .instruction .ldi | .instruction .lea
  | .instruction .st | .instruction .sti => some .pcOffset9
  | .instruction .jsr => some .pcOffset11
  | .instruction .ldr | .instruction .str => some .offset6
  | .instruction .trap => some .trapVect8
  | .directive .orig => some .address16
  | .directive .blkw => some .count16
  | _ => none

def Numeral.digitCount (lit : Numeral) : Nat := (Numeral.splitSign lit.digits.toList).2.length

namespace Node

/-- The number literal of a statement with its token: the immediate of ADD and AND, the operand of
TRAP, .ORIG, .FILL and .BLKW, and a branch, load or store target that is a number. -/
def literalOperand? (n : Node) : Option (Token × Numeral) :=
  let arg? := match n.kind with
    | .instruction .add | .instruction .and =>
      if n.form = some Form.immediate then n.args[2]? else none
    | .instruction .trap | .directive .orig | .directive .fill | .directive .blkw => n.args[0]?
    | k => if k.takesTarget then n.args.getLast? else none
  arg?.bind fun t => match t.lexeme with
    | .number lit => some (t, lit)
    | _ => none

/-- What the literal check owes a statement: an error on a malformed literal, and a warning on a
well-formed one outside the field of its construct. -/
def literalDiagnostic? (n : Node) : Option Diagnostic :=
  n.literalOperand?.bind fun (t, lit) =>
    if !lit.isWellFormed then
      some { severity := .error, message := s!"Invalid number literal `{lit.text}`",
             start := t.start, last := t.last, hint := some lit.radix.example }
    else match n.kind.literalField?, lit.value? with
      | some f, some v =>
        if f.minimum ≤ v ∧ v ≤ f.maximum then none
        else some { severity := .warning, message := outOfRangeMessage lit f,
                    start := t.start, last := t.last }
      | _, _ => none

/-- The literal whose value the check needs but cannot read: a well-formed decimal literal of more
than `Text.digitLimit` digits in a construct with a field. -/
def unreadableLiteral? (n : Node) : Option Numeral :=
  n.literalOperand?.bind fun (_, lit) =>
    if lit.isWellFormed ∧ n.kind.literalField?.isSome ∧ lit.radix = .decimal ∧
        Text.digitLimit < lit.digitCount then some lit
    else none

variable {n : Node}

theorem filter_number_eq (o : Option Token) :
    o.filter (fun t => match t.lexeme with
      | .number _ => true
      | _ => false) =
    (o.bind fun t => match t.lexeme with
      | .number lit => some (t, lit)
      | _ => none).map Prod.fst := by
  cases o with
  | none => rfl
  | some t =>
    obtain ⟨lexeme, start, last, text⟩ := t
    cases lexeme <;> rfl

theorem literalArg?_eq_literalOperand? (hs : n.Shaped) :
    n.literalArg? = n.literalOperand?.map Prod.fst := by
  by_cases hf : n.form = some .immediate
  · -- only ADD and AND have an immediate form, and their immediate is a number
    obtain ⟨a, lit, ha, hl, -⟩ := hs.immediate hf
    rcases hs.form_some (by simp [hf]) with hk | hk <;>
      simp [literalArg?, literalOperand?, hf, hk, ha, hl]
  · -- otherwise the kind decides which operand, if any, both read
    unfold Node.literalArg? Node.literalOperand?
    rw [if_neg hf]
    cases hk : n.kind with
    | instruction op =>
      cases op
      case add | and => simp [hf, NodeKind.takesTarget]
      all_goals exact filter_number_eq _
    | directive d => cases d <;> exact filter_number_eq _
    | _ => exact filter_number_eq _

theorem field?_eq_literalField?
    (hdir : ∀ d, n.kind = .directive d → n.token.lexeme = .directive (.known d))
    {o : Token × Numeral} (h : n.literalOperand? = some o) :
    n.field? = n.kind.literalField? := by
  cases hk : n.kind with
  | instruction op => cases op <;> simp [field?, hk, NodeKind.literalField?, Opcode.signature]
  | directive d =>
    have ht := hdir d hk
    cases d <;> simp [field?, directive?, hk, ht, NodeKind.literalField?, Directive.signature]
  | _ => simp [literalOperand?, hk, NodeKind.takesTarget] at h

end Node

theorem ofLeading_kind_directive {t : Token} {i : Nat} {args : List Token} {d : Directive}
    (h : (Node.ofLeading t i args).kind = .directive d) : t.lexeme = .directive (.known d) := by
  cases hl : t.lexeme with
  | opcode m =>
    cases hm : m.opcode.signature.mismatch? args <;> simp [Node.ofLeading, hl, hm] at h
  | directive w =>
    cases w with
    | unknown name => simp [Node.ofLeading, hl] at h
    | known e =>
      cases he : e.signature.mismatch? args <;> simp [Node.ofLeading, hl, he] at h
      rw [h]
  | _ => simp [Node.ofLeading, hl] at h

theorem Numeral.toInt_of_value? {lit : Numeral} {v : Int} (hv : lit.value? = some v) :
    lit.toInt = if lit.radix = .decimal ∧ Text.digitLimit < lit.digitCount
      then .error ((Text.IntegerFault.tooManyDigits lit.digitCount).message lit.digits)
      else .ok v := by
  unfold Numeral.toInt
  rw [hv]
  rfl

theorem literalProblem?_eq {n : Node} (hs : n.Shaped)
    (hdir : ∀ d, n.kind = .directive d → n.token.lexeme = .directive (.known d)) :
    n.literalProblem? = n.unreadableLiteral?.elim (.ok n.literalDiagnostic?)
      fun lit => .error ⟨(Text.IntegerFault.tooManyDigits lit.digitCount).message lit.digits⟩ := by
  have harg := Node.literalArg?_eq_literalOperand? hs
  cases ho : n.literalOperand? with
  | none =>
    have hlit : n.literal? = none := by simp [Node.literal?, harg, ho]
    simp [Node.literalProblem?, Node.unreadableLiteral?, Node.literalDiagnostic?, ho, harg, hlit]
  | some o =>
    obtain ⟨t, lit⟩ := o
    have hnum : t.lexeme = .number lit := by
      simp only [Node.literalOperand?] at ho
      obtain ⟨a, -, ha⟩ := Option.bind_eq_some_iff.1 ho
      split at ha
      · cases ha
        assumption
      · cases ha
    have hlit : n.literal? = some lit := by simp [Node.literal?, harg, ho, hnum]
    have hfield := Node.field?_eq_literalField? hdir ho
    rw [Node.literalProblem?_unfold]
    rw [harg, hlit, ho, Option.map_some, hfield]
    simp only [Node.unreadableLiteral?, Node.literalDiagnostic?, ho, Option.bind_some]
    by_cases hw : lit.isWellFormed = true
    · obtain ⟨v, hv⟩ := Option.isSome_iff_exists.1 hw
      cases hf : n.kind.literalField? with
      | none => simp [hw]
      | some f =>
        rw [Numeral.toInt_of_value? hv]
        by_cases hbig : lit.radix = .decimal ∧ Text.digitLimit < lit.digitCount
        · simp [hw, hbig]
        · simp only [hw, hv, hbig, if_false]
          simp [OperandField.contains]
    · simp [hw]

theorem mapM_eq_findSome? {α β ε δ : Type} {f : α → Except ε β} {g : α → Option δ}
    {e : δ → ε} {h : α → β} :
    ∀ {l : List α}, (∀ a ∈ l, f a = (g a).elim (.ok (h a)) fun d => .error (e d)) →
      l.mapM f = (l.findSome? g).elim (.ok (l.map h)) fun d => .error (e d)
  | [], _ => rfl
  | a :: l, hf => by
    have ih := mapM_eq_findSome? fun b hb => hf b (List.mem_cons_of_mem a hb)
    rw [List.mapM_cons, hf a List.mem_cons_self, List.findSome?_cons]
    cases g a with
    | some d => rfl
    | none =>
      simp only [ih]
      cases l.findSome? g <;> rfl

/-- Literal range checking on a parse is exact, save that reading a value is bounded: the check
aborts at the first statement whose field needs an unreadable decimal, and otherwise attaches to
each statement what it is owed and counts the statements marked. -/
theorem checkLiteralRanges_parsed (ts : List Token) :
    checkLiteralRanges (Node.ofTokens ts) =
      match (Node.ofTokens ts).findSome? Node.unreadableLiteral? with
      | some lit => .error ⟨(Text.IntegerFault.tooManyDigits lit.digitCount).message lit.digits⟩
      | none => .ok ((Node.ofTokens ts).map fun n => n.attachFound n.literalDiagnostic?,
          (Node.ofTokens ts).countP fun n => n.literalDiagnostic?.isSome) := by
  have hnodes : ∀ n ∈ Node.ofTokens ts, n.literalProblem? =
      n.unreadableLiteral?.elim (.ok n.literalDiagnostic?)
        fun lit => .error ⟨(Text.IntegerFault.tooManyDigits lit.digitCount).message lit.digits⟩ := by
    intro n hn
    obtain ⟨t, i, args, rfl⟩ := exists_ofLeading_of_mem_nodesFrom hn
    exact literalProblem?_eq (ofLeading_shaped t i args) fun d hd => by
      rw [Node.ofLeading_token]
      exact ofLeading_kind_directive hd
  unfold checkLiteralRanges
  rw [mapM_eq_findSome? hnodes]
  cases (Node.ofTokens ts).findSome? Node.unreadableLiteral? with
  | some lit => rfl
  | none =>
    simp only [Option.elim_none, bind, Except.bind, pure, Except.pure, Except.ok.injEq,
      Prod.mk.injEq]
    refine ⟨?_, ?_⟩
    · rw [List.zip_eq_zipWith, List.zipWith_map_right, List.zipWith_self, List.map_map]
      rfl
    · rw [List.filterMap_map, Function.id_comp, List.length_filterMap_eq_countP]

theorem Numeral.positional_isSome (r : Radix) {cs : List Char}
    (h : ∀ c ∈ cs, (r.digitValue? c).isSome) : (Numeral.positional r cs).isSome := by
  -- the fold never fails, whatever the value read so far
  suffices ∀ acc, (cs.foldlM (fun acc c => (r.digitValue? c).map fun d => acc * r.base + d)
      acc).isSome from this 0
  induction cs with
  | nil => simp
  | cons c cs ih =>
    intro acc
    obtain ⟨d, hd⟩ := Option.isSome_iff_exists.1 (h c List.mem_cons_self)
    simp only [List.foldlM_cons, hd, Option.map_some, Option.bind_eq_bind, Option.bind_some]
    exact ih (fun c' hc' => h c' (List.mem_cons_of_mem c hc')) _

theorem Numeral.toInt_replicate {d : Char} (hd : (Radix.decimal.digitValue? d).isSome)
    (hsign : d ≠ '-' ∧ d ≠ '+') {n : Nat} (hn : Text.digitLimit < n) :
    (Numeral.mk .decimal (String.ofList (List.replicate n d))).isWellFormed ∧
    (Numeral.mk .decimal (String.ofList (List.replicate n d))).toInt =
      .error ((Text.IntegerFault.tooManyDigits n).message
        (String.ofList (List.replicate n d))) := by
  obtain ⟨m, rfl⟩ : ∃ m, n = m + 1 := ⟨n - 1, by unfold Text.digitLimit at hn; omega⟩
  have hsplit : Numeral.splitSign (List.replicate (m + 1) d) =
      (false, List.replicate (m + 1) d) := by
    rw [List.replicate_succ]
    unfold Numeral.splitSign
    split <;> simp_all
  have hval : (Numeral.positional .decimal (List.replicate (m + 1) d)).isSome :=
    Numeral.positional_isSome _ fun c hc => by
      rw [List.eq_of_mem_replicate hc]
      exact hd
  obtain ⟨v, hv⟩ := Option.isSome_iff_exists.1 hval
  have hvalue :
      (Numeral.mk .decimal (String.ofList (List.replicate (m + 1) d))).value? = some v := by
    simp [Numeral.value?, hsplit, hv]
  refine ⟨by simp [Numeral.isWellFormed, hvalue], ?_⟩
  unfold Numeral.toInt
  simp [hvalue, hsplit, hn]

theorem checkLiteralRanges_trap_unreadable {ds message w₁ w₂ : String} {s₁ l₁ s₂ l₂ : Location}
    (hwf : (Numeral.mk .decimal ds).isWellFormed)
    (hread : (Numeral.mk .decimal ds).toInt = .error message) :
    checkLiteralRanges (Node.ofTokens
      [⟨.opcode (.plain .trap), s₁, l₁, w₁⟩, ⟨.number ⟨.decimal, ds⟩, s₂, l₂, w₂⟩]) =
        .error ⟨message⟩ := by
  have hnodes : Node.ofTokens
      [⟨.opcode (.plain .trap), s₁, l₁, w₁⟩, ⟨.number ⟨.decimal, ds⟩, s₂, l₂, w₂⟩] =
      [Node.ofLeading ⟨.opcode (.plain .trap), s₁, l₁, w₁⟩ 0
        [⟨.number ⟨.decimal, ds⟩, s₂, l₂, w₂⟩]] := by
    simp [Node.ofTokens, nodesFrom, takeOperands, Token.takesOperands, Token.isOperand,
      Lexeme.operandKind?]
  have hprob : (Node.ofLeading ⟨.opcode (.plain .trap), s₁, l₁, w₁⟩ 0
      [⟨.number ⟨.decimal, ds⟩, s₂, l₂, w₂⟩]).literalProblem? = .error ⟨message⟩ := by
    simp [Node.literalProblem?, Node.literalArg?, Node.literal?, Node.field?, Node.ofLeading,
      Signature.mismatch?, Opcode.signature, Lexeme.operandKind?, OperandSet.accepts,
      OperandSet.lit, hwf, hread, Signature.arity, Mnemonic.opcode, Option.filter_some]
  rw [hnodes]
  simp [checkLiteralRanges, hprob]

/-- The text TRAP #1…1 with 4301 ones, whose vector is well formed and lies outside trapvect8, is
not owed a warning: its literal check aborts. -/
theorem checkLiteralRanges_long_decimal :
    ∃ message, checkLiteralRanges (Node.ofTokens
      [⟨.opcode (.plain .trap), ⟨"<input>", 1, 1⟩, ⟨"<input>", 1, 4⟩, "TRAP"⟩,
        ⟨.number ⟨.decimal, String.ofList (List.replicate 4301 '1')⟩, ⟨"<input>", 1, 6⟩,
          ⟨"<input>", 1, 4306⟩, "#" ++ String.ofList (List.replicate 4301 '1')⟩]) =
      .error ⟨message⟩ := by
  obtain ⟨hwf, hread⟩ := Numeral.toInt_replicate (d := '1') (by decide) (by decide)
    (n := 4301) (by decide)
  exact ⟨_, checkLiteralRanges_trap_unreadable hwf hread⟩

theorem Lexeme.ofWord_trap : Lexeme.ofWord ['T', 'R', 'A', 'P'] = .opcode (.plain .trap) := by
  decide +kernel

theorem lexemeAt_trap (rest : List Char) :
    lexemeAt 'T' ('R' :: 'A' :: 'P' :: ' ' :: rest) =
      ⟨.opcode (.plain .trap), ['R', 'A', 'P'], ' ' :: rest⟩ := by
  have hR : isWordChar 'R' = true := by decide
  have hA : isWordChar 'A' = true := by decide
  have hP : isWordChar 'P' = true := by decide
  have hsp : ¬isWordChar ' ' = true := by decide
  simp only [lexemeAt, List.takeWhile_cons_of_pos hR, List.takeWhile_cons_of_pos hA,
    List.takeWhile_cons_of_pos hP, List.takeWhile_cons_of_neg hsp, List.dropWhile_cons_of_pos hR,
    List.dropWhile_cons_of_pos hA, List.dropWhile_cons_of_pos hP, List.dropWhile_cons_of_neg hsp,
    Lexeme.ofWord_trap]
  simp

theorem lexemeAt_decimal {ds : List Char} (hds : ∀ c ∈ ds, isWordChar c = true) :
    lexemeAt '#' ds = ⟨.number ⟨.decimal, String.ofList ds⟩, ds, []⟩ := by
  have htake : ds.takeWhile isWordChar = ds := List.takeWhile_eq_self_iff.2 hds
  have hdrop : ds.dropWhile isWordChar = [] := List.dropWhile_eq_nil_iff.2 hds
  simp [lexemeAt, htake, hdrop]

theorem Token.scan_trap_decimal (file : String) {ds : List Char}
    (hds : ∀ c ∈ ds, isWordChar c = true) :
    Token.scan (String.ofList ('T' :: 'R' :: 'A' :: 'P' :: ' ' :: '#' :: ds)) file =
      [⟨.opcode (.plain .trap), ⟨file, 1, 1⟩, ⟨file, 1, 4⟩, "TRAP"⟩,
        ⟨.number ⟨.decimal, String.ofList ds⟩, ⟨file, 1, 6⟩, ⟨file, 1, 6 + ds.length⟩,
          String.ofList ('#' :: ds)⟩] := by
  have hnl : '\n' ∉ ds := fun h => absurd (hds '\n' h) (by decide)
  rw [Token.scan, String.toList_ofList, scanFrom, if_neg (by decide), lexemeAt_trap]
  dsimp only
  rw [scanFrom, if_pos (by decide), scanFrom, if_neg (by decide), lexemeAt_decimal hds]
  dsimp only
  rw [scanFrom]
  have hspace : ((⟨1, 1⟩ : Cursor).advanceAll ['T', 'R', 'A', 'P']).advance ' ' = ⟨1, 6⟩ := rfl
  have hdrop : '\n' ∉ ('#' :: ds).dropLast := fun h => by
    rcases List.mem_cons.1 (List.mem_of_mem_dropLast h) with h | h
    · cases h
    · exact hnl h
  rw [hspace, Cursor.advanceAll_of_not_mem _ hdrop, List.length_dropLast, List.length_cons,
    Nat.add_sub_cancel]
  rfl

end Lc3Lint
