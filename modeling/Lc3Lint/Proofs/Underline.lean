import Mathlib
import Lc3Lint.Proofs.DiagnosticOrder
import Lc3Lint.Proofs.SourceLines
/-! Carets under a diagnostic: spaces up to its first column, then a caret under every column of its
span on the line it starts on. -/
namespace Lc3Lint

theorem scanFrom_lineFeed (file : String) (p : Cursor) (cs : List Char) :
    ∀ t ∈ scanFrom file p cs, t.text.toList.head? = some '\n' → t.lexeme = .newline := by
  induction p, cs using scanFrom.induct with
  | case1 p => simp [scanFrom]
  | case2 p c cs hblank ih =>
    rw [scanFrom, if_pos hblank]
    exact ih
  | case3 p c cs hblank l text ih =>
    rw [scanFrom, if_neg hblank]
    intro t ht hhead
    rcases List.mem_cons.1 ht with rfl | ht
    · -- the token's text starts with the character it was read from
      simp only [String.toList_ofList, List.head?_cons, Option.some.injEq] at hhead
      subst hhead
      simp [lexemeAt]
    · exact ih t ht hhead

theorem TokenAt.getElem?_offset {file : String} {s : List Char} {t : Token} {p : Nat}
    (h : TokenAt file s t p) : s[p]? = t.text.toList.head? := by
  rw [h.text_eq, List.head?_take, if_neg (by have := h.run_bounds.1; omega), List.head?_drop]

namespace Node

variable {n : Node}

theorem Shaped.not_watches_of_blankLine (hs : n.Shaped) (hk : n.kind = .blankLine) (p : Pass) :
    ¬ p.Watches n := by
  cases p with
  | labels =>
    rintro ⟨x, hx⟩
    simpa [hk, NodeKind.takesTarget] using takesTarget_of_target? hx
  | ranges =>
    rintro ⟨lit, hlit⟩
    obtain ⟨t, ht, -⟩ := Option.bind_eq_some_iff.1 hlit
    rcases (literalArg?_eq_some ht).2 with ⟨hf, -⟩ | ⟨hv, -⟩ | ⟨ht', -⟩
    · rcases hs.form_some (by simp [hf]) with hk' | hk' <;> simp [hk] at hk'
    · rcases hv with hv | hv | hv | hv <;> simp [hk] at hv
    · simp [hk, NodeKind.takesTarget] at ht'
  | duplicates =>
    intro hl
    have hl : n.kind = .label := hl
    simp [hk] at hl

theorem kind_of_lead_newline {ts : List Token} (hn : n ∈ Node.ofTokens ts)
    (h : n.token.lexeme = .newline) : n.kind = .blankLine := by
  obtain ⟨t, i, args, rfl⟩ := exists_ofLeading_of_mem_nodesFrom hn
  rw [ofLeading_token] at h
  simp [ofLeading, h]

end Node

theorem marks_lead_after {ts : List Token} {qs : List Pass} (hq : ∀ p, qs.count p ≤ 1) {k : Nat}
    {n : Node} (hn : (Pass.after qs (Node.ofTokens ts))[k]? = some n) {d : Diagnostic}
    (hd : d ∈ n.diagnostics) :
    ∃ m, (Node.ofTokens ts)[k]? = some m ∧ m.kind ≠ .blankLine ∧ d.Marks m := by
  obtain ⟨m, hm, rfl, -, hmarks⟩ := marks_after hq hn
  refine ⟨m, hm, fun hk => ?_, hmarks d hd⟩
  -- a blank line leaves the parser bare and no check finds anything on it
  obtain ⟨hs, -⟩ := shaped_clean_of_mem_ofTokens (List.mem_of_getElem? hm)
  have hbare : m.diagnostics = [] := (hs.standalone (.inl hk)).2.2
  have hnone : ∀ p : Pass, p.findingAt (Node.ofTokens ts) k = none := fun p => by
    cases hf : p.findingAt (Node.ofTokens ts) k with
    | none => rfl
    | some e =>
      obtain ⟨m', hm', hw⟩ := Pass.findingAt_watches hf
      rw [hm, Option.some.injEq] at hm'
      exact absurd (hm' ▸ hw) (hs.not_watches_of_blankLine hk p)
  simp [Node.extend, hbare, Pass.addedAt, hnone] at hd

theorem Diagnostic.Marks.tokens {ts : List Token} {d : Diagnostic} {m : Node} (hm : d.Marks m)
    (hr : m.ReadsFrom ts) (hs : m.Spans) (hlead : m.token.lexeme ≠ .newline) :
    ∃ (i j : Nat) (t u : Token), i ≤ j ∧ ts[i]? = some t ∧ t.lexeme ≠ .newline ∧ t.start = d.start ∧
      ts[j]? = some u ∧ u.last = d.last := by
  rcases hm with ⟨hstart, hlast⟩ | ⟨a, ha, hstart, hlast⟩
  · obtain ⟨hle, -, u, hu, hul⟩ := hr.covers hs
    exact ⟨_, _, _, u, hle, hr.token_eq, hlead, by rw [hstart, hs.start_eq], hu, by rw [hul, hlast]⟩
  · -- an operand is a register, a number, a label or a string
    obtain ⟨j, hj⟩ := List.mem_iff_getElem?.1 ha
    have hop := hr.operand a ha
    have hnl : a.lexeme ≠ .newline := fun h => by simp [Token.isOperand, h, Lexeme.operandKind?] at hop
    exact ⟨_, _, a, a, le_refl _, hr.arg_eq j a hj, hnl, hstart.symm, hr.arg_eq j a hj, hlast.symm⟩

theorem analyze_diagnostic_offsets {s₀ s : Session} {source file : String}
    (h : s₀.analyze source file = .ok s) {d : Diagnostic} (hd : d ∈ s.diagnostics) :
    ∃ p q, p ≤ q ∧ q < source.length ∧ source.toList[p]? ≠ some '\n' ∧
      d.start = offsetLocation file source.toList p ∧ d.last = offsetLocation file source.toList q := by
  have ha := Session.analyze_analyzes h
  -- the statement carrying `d`, and the tokens its span runs over
  obtain ⟨n, hn, hdn⟩ := List.mem_flatMap.1 ((List.mergeSort_perm _ _).mem_iff.1 hd)
  rw [ha.nodes_eq] at hn
  obtain ⟨k, hk⟩ := List.mem_iff_getElem?.1 hn
  obtain ⟨m, hm, hblank, hmarks⟩ := marks_lead_after s₀.config.count_passes_le hk hdn
  have hmem := List.mem_of_getElem? hm
  have hlead : m.token.lexeme ≠ .newline := fun h => hblank (Node.kind_of_lead_newline hmem h)
  obtain ⟨i, j, t, u, hij, hi, ht, hts, hj, hul⟩ := hmarks.tokens
    ((partition_ofTokens _).reads m hmem)
    (Node.spans_of_mem_ofTokens hmem) hlead
  -- where those tokens lie in the text
  obtain ⟨offs, htiles⟩ := scan_tiles source file
  rw [ha.tokens_eq] at hi hj
  obtain ⟨pi, hpi, hti⟩ := forall₂_getElem? htiles.at_offsets hi
  obtain ⟨pj, hpj, huj⟩ := forall₂_getElem? htiles.at_offsets hj
  have hle : pi ≤ pj := by
    rcases Nat.eq_or_lt_of_le hij with rfl | hlt
    · rw [hpi, Option.some.injEq] at hpj
      exact le_of_eq hpj
    · obtain ⟨hi', rfl⟩ := List.getElem?_eq_some_iff.1 hpi
      obtain ⟨hj', rfl⟩ := List.getElem?_eq_some_iff.1 hpj
      exact le_of_lt (List.pairwise_iff_getElem.1 htiles.increasing i j hi' hj' hlt)
  obtain ⟨hpos, hend⟩ := huj.run_bounds
  have hlen : source.toList.length = source.length := String.length_toList
  refine ⟨pi, pj + u.text.length - 1, by omega, by omega, ?_, by rw [← hts, hti.start_eq],
    by rw [← hul, huj.last_eq]⟩
  -- the first token is no line end, so its first character is no line feed
  rw [hti.getElem?_offset]
  exact fun hnl => ht (scanFrom_lineFeed file ⟨1, 1⟩ source.toList t (List.mem_of_getElem? hi) hnl)

def Diagnostic.EndsWithLineFeed (d : Diagnostic) (source file : String) : Prop :=
  ∃ q, source.toList[q]? = some '\n' ∧ d.last = offsetLocation file source.toList q

theorem offsetLocation_inj {file : String} {s : List Char} {q r : Nat} (hq : q ≤ s.length)
    (hr : r ≤ s.length) (h : offsetLocation file s q = offsetLocation file s r) : q = r := by
  rcases Nat.lt_trichotomy q r with hlt | heq | hgt
  · have hb := @offsetLocation_before file s q r hlt hr
    rw [h, Location.before_iff] at hb
    omega
  · exact heq
  · have hb := @offsetLocation_before file s r q hgt hq
    rw [h, Location.before_iff] at hb
    omega

/-- Carets under a diagnostic, exactly. The report prints the line a diagnostic starts on, then
spaces up to its first column and carets to its last column or the end of the line; they pass the
line only when the span ends with the line feed that ends it. -/
theorem analyze_underline_exact {s₀ s : Session} {source file : String}
    (h : s₀.analyze source file = .ok s) {d : Diagnostic} (hd : d ∈ s.diagnostics) :
    ∃ line k, Collector.lineAt (some s.lines) d.start.line = some line ∧ 1 ≤ k ∧
      d.underline line = "".pushn ' ' (d.start.column - 1).toNat ++ "".pushn '^' k ∧
      1 ≤ d.start.column ∧ d.start.column ≤ line.length ∧
      (d.last.line = d.start.line → d.start.column + k - 1 = d.last.column) ∧
      (d.last.line ≠ d.start.line → d.start.column + k - 1 = line.length) ∧
      (d.last.line = d.start.line ∧ d.EndsWithLineFeed source file →
        d.start.column + k - 1 = line.length + 1) ∧
      (¬ (d.last.line = d.start.line ∧ d.EndsWithLineFeed source file) →
        d.start.column + k - 1 ≤ line.length) := by
  have ha := Session.analyze_analyzes h
  have hlen : source.toList.length = source.length := String.length_toList
  obtain ⟨p, q, hpq, hq, hp, hstart, hlast⟩ := analyze_diagnostic_offsets h hd
  obtain ⟨line, hline, hcol1, hcolle, hsame⟩ := span_from_line source file hpq hq hp
  rw [← hstart, ← hlast] at hsame
  rw [← hstart] at hline hcol1 hcolle
  have hlines : s.lines = source.splitOn "\n" := by rw [Session.lines, ha.source_eq]
  -- the span ends with a line feed exactly when its character at `q` is one
  have hends : d.EndsWithLineFeed source file ↔ source.toList[q]? = some '\n' := by
    constructor
    · rintro ⟨q', hq', hl'⟩
      have hq'len := (List.getElem?_eq_some_iff.1 hq').1
      rw [hlast] at hl'
      rw [offsetLocation_inj (by omega) (by omega) hl']
      exact hq'
    · exact fun hq' => ⟨q, hq', hlast⟩
  -- the caret count the renderer computes, from the last column it marks
  have hk0 : 0 ≤ (if d.last.line = d.start.line then d.last.column
      else max (line.length : Int) d.start.column) - d.start.column := by
    split_ifs with hs
    · have := (hsame hs).1
      omega
    · exact sub_nonneg.2 (le_max_right _ _)
  have hk := Int.toNat_of_nonneg (show 0 ≤ (if d.last.line = d.start.line then d.last.column
      else max (line.length : Int) d.start.column) - d.start.column + 1 by omega)
  refine ⟨line, _, hlines ▸ hline, by omega, rfl, hcol1, hcolle, fun hs => ?_, fun hs => ?_,
    fun hs => ?_, fun hs => ?_⟩
  · rw [hk, if_pos hs]
    omega
  · rw [hk, if_neg hs, max_eq_left hcolle]
    omega
  · rw [hk, if_pos hs.1]
    have := (hsame hs.1).2.2.2 (hends.1 hs.2)
    omega
  · by_cases hs' : d.last.line = d.start.line
    · -- on the same line, the last column is one past the line only at its line feed
      obtain ⟨-, hle, hiff⟩ := hsame hs'
      have hne : d.last.column ≠ line.length + 1 := fun heq => hs ⟨hs', hends.2 (hiff.1 heq)⟩
      rw [hk, if_pos hs']
      omega
    · rw [hk, if_neg hs', max_eq_left hcolle]
      omega

theorem analyze_open_string :
    ∃ s d, (Session.start {}).analyze "\"\n" "f" = .ok s ∧ s.diagnostics = [d] ∧
      d.start = ⟨"f", 1, 1⟩ ∧ d.last = ⟨"f", 1, 2⟩ ∧
      s.lines = [String.ofList ['"'], String.ofList []] := by
  obtain ⟨s, hs⟩ := @Session.analyze_ok_of_length_le (Session.start {}) "\"\n" "f" (by decide)
  have hspans : ((Session.start {}).analyze "\"\n" "f").toOption.map
      (fun s => s.diagnostics.map fun d => (d.start, d.last)) =
      some [(⟨"f", 1, 1⟩, ⟨"f", 1, 2⟩)] := by decide +kernel
  rw [hs] at hspans
  simp only [Except.toOption, Option.map_some, Option.some.injEq, List.map_eq_singleton_iff]
    at hspans
  obtain ⟨d, hds, hd⟩ := hspans
  simp only [Prod.mk.injEq] at hd
  have hsplit : "\"\n".toList.splitOnP (· == '\n') = [['"'], []] := by decide +kernel
  refine ⟨s, d, hs, hds, hd.1, hd.2, ?_⟩
  rw [Session.lines, (Session.analyze_analyzes hs).source_eq, splitOn_newline, hsplit]
  rfl

theorem analyze_underline_exact_open_string :
    ∃ s d, (Session.start {}).analyze "\"\n" "f" = .ok s ∧ d ∈ s.diagnostics ∧
      ∃ line k, Collector.lineAt (some s.lines) d.start.line = some line ∧ 1 ≤ k ∧
        d.underline line = "".pushn ' ' (d.start.column - 1).toNat ++ "".pushn '^' k ∧
        1 ≤ d.start.column ∧ d.start.column ≤ line.length ∧
        (d.last.line = d.start.line → d.start.column + k - 1 = d.last.column) ∧
        (d.last.line ≠ d.start.line → d.start.column + k - 1 = line.length) ∧
        (d.last.line = d.start.line ∧ d.EndsWithLineFeed "\"\n" "f" →
          d.start.column + k - 1 = line.length + 1) ∧
        (¬ (d.last.line = d.start.line ∧ d.EndsWithLineFeed "\"\n" "f") →
          d.start.column + k - 1 ≤ line.length) := by
  obtain ⟨s, d, hs, hds, -⟩ := analyze_open_string
  have hd : d ∈ s.diagnostics := hds ▸ List.mem_singleton_self d
  exact ⟨s, d, hs, hd, analyze_underline_exact hs hd⟩

/-- Two carets under a line of one character. The string left open at the end of the line `"`
ends with the line's line feed, and the caret line marks that line feed too: its carets run one
column past the line. -/
theorem underline_open_string_past_line :
    ∃ s d line, (Session.start {}).analyze "\"\n" "f" = .ok s ∧ d ∈ s.diagnostics ∧
      Collector.lineAt (some s.lines) d.start.line = some line ∧ line = String.ofList ['"'] ∧
      d.start.column = 1 ∧ d.underline line = "".pushn ' ' 0 ++ "".pushn '^' 2 ∧
      line.length < d.start.column + 2 - 1 := by
  obtain ⟨s, d, hs, hds, hstart, hlast, hlines⟩ := analyze_open_string
  refine ⟨s, d, _, hs, hds ▸ List.mem_singleton_self d, ?_, rfl, by rw [hstart], ?_, ?_⟩
  · rw [hstart, hlines]
    rfl
  · simp [Diagnostic.underline, hstart, hlast]
  · simp only [hstart, String.length_ofList, List.length_singleton]
    norm_num

end Lc3Lint
