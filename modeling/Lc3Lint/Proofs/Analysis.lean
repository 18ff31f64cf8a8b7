import Mathlib
import Lc3Lint.Proofs.CheckIndependence
/-! What a finished analysis holds, and when an analysis finishes: exactly when no enabled check
aborts, so always for a text no longer than the digit limit. -/
namespace Lc3Lint

@[simp] theorem ok_bind {ε α β : Type} (a : α) (f : α → Except ε β) :
    (Except.ok a >>= f) = f a := rfl

theorem bind_eq_ok {ε α β : Type} {x : Except ε α} {f : α → Except ε β} {b : β}
    (h : (x >>= f) = .ok b) : ∃ a, x = .ok a ∧ f a = .ok b := by
  cases x with
  | error e => cases h
  | ok a => exact ⟨a, rfl, h⟩

theorem Pass.runAll_after (ps qs : List Pass) (ns : List Node) :
    Pass.runAll ps (after qs ns) = match ps.findSome? (·.abort? ns) with
      | some e => .error e
      | none => .ok (after (qs ++ ps) ns, ps.map fun p => (p, p.count ns)) := by
  induction ps generalizing qs with
  | nil => simp [Pass.runAll]
  | cons p ps ih =>
    rw [Pass.runAll, run_after, List.findSome?_cons]
    cases p.abort? ns with
    | some e => rfl
    | none =>
      simp only [ok_bind, ih (qs ++ [p])]
      cases ps.findSome? (·.abort? ns) with
      | some e => rfl
      | none => simp [List.append_assoc, pure, Except.pure]

theorem Config.count_passes_le (c : Config) (p : Pass) : c.passes.count p ≤ 1 := by
  unfold Config.passes
  cases p <;> split_ifs <;> simp

namespace Collector

variable (c : Collector) (ds : List Diagnostic)

@[simp] theorem errors_extend : (c.extend ds).errors = c.errors ++ ds.filter Diagnostic.isError := by
  induction ds generalizing c with
  | nil => simp [extend]
  | cons d ds ih =>
    rw [extend, List.foldl_cons, ← extend, ih]
    by_cases hd : d.isError = true <;> simp [add, hd]

@[simp] theorem warnings_extend :
    (c.extend ds).warnings = c.warnings ++ ds.filter (!·.isError) := by
  induction ds generalizing c with
  | nil => simp [extend]
  | cons d ds ih =>
    rw [extend, List.foldl_cons, ← extend, ih]
    by_cases hd : d.isError = true <;> simp [add, hd]

@[simp] theorem warningsAsErrors_extend : (c.extend ds).warningsAsErrors = c.warningsAsErrors := by
  induction ds generalizing c with
  | nil => rfl
  | cons d ds ih =>
    rw [extend, List.foldl_cons, ← extend, ih]
    by_cases hd : d.isError = true <;> simp [add, hd]

end Collector

namespace Session

/-- The session `s` holds the analysis of `source` named `file` under the settings `c`: its tokens,
the statements with every enabled check's findings attached, and their diagnostics in order. -/
structure Analyzes (s : Session) (c : Config) (source file : String) : Prop where
  config_eq : s.config = c
  source_eq : s.source = source
  tokens_eq : s.tokens = Token.scan source file
  nodes_eq : s.nodes = Pass.after c.passes (Node.ofTokens s.tokens)
  no_abort : c.passes.findSome? (·.abort? (Node.ofTokens s.tokens)) = none
  collector_eq : s.collector = c.collector.extend (s.nodes.flatMap (·.diagnostics))

variable {s₀ s : Session} {source file : String}

/-- How an analysis ends: with the first abort of an enabled check, or with the statements that
every enabled check marked. -/
theorem analyze_runAll (s₀ : Session) (source file : String) :
    Pass.runAll s₀.config.passes (Node.ofTokens (Token.scan source file)) =
      match s₀.config.passes.findSome? (·.abort? (Node.ofTokens (Token.scan source file))) with
      | some e => .error e
      | none => .ok (Pass.after s₀.config.passes (Node.ofTokens (Token.scan source file)),
          s₀.config.passes.map fun p => (p, p.count (Node.ofTokens (Token.scan source file)))) := by
  have hr := Pass.runAll_after s₀.config.passes [] (Node.ofTokens (Token.scan source file))
  rwa [Pass.after_nil, List.nil_append] at hr

theorem analyze_analyzes (h : s₀.analyze source file = .ok s) :
    s.Analyzes s₀.config source file := by
  dsimp only [analyze] at h
  rw [analyze_runAll] at h
  cases hf : s₀.config.passes.findSome? (·.abort? (Node.ofTokens (Token.scan source file))) with
  | some e => simp [hf, Except.mapError] at h
  | none =>
    simp only [hf, Except.mapError] at h
    cases h
    exact ⟨rfl, rfl, rfl, rfl, hf, rfl⟩

/-- An analysis finishes exactly when none of the enabled checks aborts on the statements. -/
theorem analyze_ok_iff :
    (∃ s, s₀.analyze source file = .ok s) ↔
      s₀.config.passes.findSome? (·.abort? (Node.ofTokens (Token.scan source file))) = none := by
  constructor
  · rintro ⟨s, h⟩
    have ha := analyze_analyzes h
    rw [← ha.tokens_eq]
    exact ha.no_abort
  · intro hf
    dsimp only [analyze]
    rw [analyze_runAll, hf]
    exact ⟨_, rfl⟩

end Session

theorem Lexeme.ofWord_ne_number (w : List Char) (lit : Numeral) : Lexeme.ofWord w ≠ .number lit := by
  unfold Lexeme.ofWord
  dsimp only
  split
  · simp
  · split <;> simp

theorem lexemeAt_number {c : Char} {cs : List Char} {lit : Numeral}
    (h : (lexemeAt c cs).lexeme = .number lit) : lit.digits.toList = (lexemeAt c cs).body := by
  unfold lexemeAt at h ⊢
  by_cases h1 : c = '\n'
  · rw [if_pos h1] at h
    simp at h
  rw [if_neg h1] at h ⊢
  by_cases h2 : c = ','
  · rw [if_pos h2] at h
    simp at h
  rw [if_neg h2] at h ⊢
  by_cases h3 : c = '"'
  · rw [if_pos h3] at h
    split at h <;> simp at h
  rw [if_neg h3] at h ⊢
  by_cases h4 : c = ';'
  · rw [if_pos h4] at h
    simp at h
  rw [if_neg h4] at h ⊢
  by_cases h5 : c = '#' ∨ c = 'x'
  · rw [if_pos h5] at h ⊢
    simp only [Lexeme.number.injEq] at h
    rw [← h, String.toList_ofList]
  rw [if_neg h5] at h
  by_cases h6 : c = '.'
  · rw [if_pos h6] at h
    simp at h
  · rw [if_neg h6] at h
    dsimp only at h
    exact absurd h (Lexeme.ofWord_ne_number _ lit)

theorem scanFrom_digits_lt (file : String) (p : Cursor) (cs : List Char) :
    ∀ t ∈ scanFrom file p cs, ∀ lit, t.lexeme = .number lit → lit.digits.length < cs.length := by
  induction p, cs using scanFrom.induct with
  | case1 p => simp [scanFrom]
  | case2 p c cs hblank ih =>
    intro t ht lit hl
    rw [scanFrom, if_pos hblank] at ht
    have := ih t ht lit hl
    simp only [List.length_cons]
    omega
  | case3 p c cs hblank l text ih =>
    intro t ht lit hl
    simp only [text, l] at ih
    rw [scanFrom, if_neg hblank] at ht
    have hsplit := congrArg List.length (lexemeAt_body_append c cs)
    simp only [List.length_append] at hsplit
    simp only [List.length_cons]
    rcases List.mem_cons.1 ht with rfl | ht
    · have hd : lit.digits.length = (lexemeAt c cs).body.length := by
        rw [← String.length_toList, lexemeAt_number hl]
      omega
    · have := ih t ht lit hl
      omega

theorem Node.mem_tokens_of_mem_args {ts : List Token} {n : Node} (hn : n ∈ Node.ofTokens ts)
    {a : Token} (ha : a ∈ n.args) : a ∈ ts := by
  have hr := (partition_ofTokens ts).reads n hn
  obtain ⟨j, hj⟩ := List.mem_iff_getElem?.1 ha
  exact List.mem_of_getElem? (hr.arg_eq j a hj)

theorem Node.mem_args_of_literalArg? {n : Node} {t : Token} (h : n.literalArg? = some t) :
    t ∈ n.args := by
  rcases (Node.literalArg?_eq_some h).2 with ⟨-, ht⟩ | ⟨-, ht⟩ | ⟨-, ht⟩
  · exact List.mem_of_getElem? ht
  · exact List.mem_of_getElem? ht
  · exact List.mem_of_getLast? ht

theorem Numeral.length_splitSign_le (cs : List Char) : (Numeral.splitSign cs).2.length ≤ cs.length := by
  unfold Numeral.splitSign
  split <;> simp

theorem Numeral.toInt_ok {lit : Numeral} (hw : lit.isWellFormed = true)
    (hlen : lit.digits.length ≤ Text.digitLimit) : ∃ v, lit.toInt = .ok v := by
  obtain ⟨v, hv⟩ := Option.isSome_iff_exists.1 hw
  have hcount := Numeral.length_splitSign_le lit.digits.toList
  rw [String.length_toList] at hcount
  refine ⟨v, ?_⟩
  unfold Numeral.toInt
  rw [hv]
  dsimp only
  rw [if_neg (by omega)]

theorem Node.literalProblem?_ok {n : Node}
    (h : ∀ lit, n.literal? = some lit → lit.digits.length ≤ Text.digitLimit) :
    ∃ r, n.literalProblem? = .ok r := by
  rw [Node.literalProblem?_unfold]
  split
  · rename_i t lit _ hl
    by_cases hw : lit.isWellFormed = true
    · rw [if_neg (by simp [hw])]
      cases n.field? with
      | none => exact ⟨_, rfl⟩
      | some f =>
        obtain ⟨v, hv⟩ := Numeral.toInt_ok hw (h lit hl)
        simp only [hv]
        exact ⟨_, rfl⟩
    · rw [if_pos (by simp [hw])]
      exact ⟨_, rfl⟩
  · exact ⟨_, rfl⟩

theorem mapM_eq_ok_of_forall {α β ε : Type} {f : α → Except ε β} :
    ∀ {xs : List α}, (∀ x ∈ xs, ∃ y, f x = .ok y) → ∃ ys, xs.mapM f = .ok ys
  | [], _ => ⟨[], rfl⟩
  | x :: xs, h => by
    obtain ⟨y, hy⟩ := h x List.mem_cons_self
    obtain ⟨ys, hys⟩ := mapM_eq_ok_of_forall fun z hz => h z (List.mem_cons_of_mem x hz)
    exact ⟨y :: ys, by simp [List.mapM_cons, hy, hys, pure, Except.pure]⟩

/-- An analysis of a text no longer than the digit limit finishes: every literal in it is a token
of the text, so none has too many digits to read. -/
theorem Session.analyze_ok_of_length_le (s₀ : Session) {source : String} (file : String)
    (h : source.length ≤ Text.digitLimit) : ∃ s, s₀.analyze source file = .ok s := by
  rw [Session.analyze_ok_iff, List.findSome?_eq_none_iff]
  intro p _
  cases p with
  | labels => rfl
  | duplicates => rfl
  | ranges =>
    have hok : ∀ n ∈ Node.ofTokens (Token.scan source file), ∃ r, n.literalProblem? = .ok r := by
      intro n hn
      apply Node.literalProblem?_ok
      intro lit hlit
      obtain ⟨t, ht, hnum⟩ := Option.bind_eq_some_iff.1 hlit
      have hmem := Node.mem_tokens_of_mem_args hn (Node.mem_args_of_literalArg? ht)
      have hlex : t.lexeme = .number lit := by
        split at hnum
        · rename_i l hl
          rw [hl, Option.some.inj hnum]
        · simp at hnum
      have := scanFrom_digits_lt file ⟨1, 1⟩ source.toList t hmem lit hlex
      rw [String.length_toList] at this
      omega
    obtain ⟨fs, hfs⟩ := mapM_eq_ok_of_forall hok
    simp [Pass.abort?, hfs]

end Lc3Lint
