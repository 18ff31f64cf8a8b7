import Lc3Lint.Proofs.Analysis
import Lc3Lint.Proofs.LiteralRanges
/-! Sessions remember their collector across an analysis that aborts, and nothing else but their
settings. -/
namespace Lc3Lint

namespace Session

inductive Query where
  | source
  | tokens
  | nodes
  | diagnostics
  | report (style : SeverityStyle)
  | summary
  | hasErrors
  | hasWarnings
  | errorCount
  | warningCount
  | failure

inductive Answer where
  | text (s : String)
  | tokens (ts : List Token)
  | nodes (ns : List Node)
  | diagnostics (ds : List Diagnostic)
  | flag (b : Bool)
  | count (n : Nat)
  | failure (f : Option CheckFailure)
  | raised (a : AnalysisAbort)
  deriving DecidableEq, Repr

def ask (s : Session) : Query → Answer
  | .source => .text s.source
  | .tokens => .tokens s.tokens
  | .nodes => .nodes s.nodes
  | .diagnostics => .diagnostics s.diagnostics
  | .report style => .text (s.report style)
  | .summary => .text s.summary
  | .hasErrors => .flag s.hasErrors
  | .hasWarnings => .flag s.hasWarnings
  | .errorCount => .count s.errorCount
  | .warningCount => .count s.warningCount
  | .failure => .failure s.failure?

inductive Op where
  | analyze (source file : String)
  | ask (q : Query)

/-- One call on a session: the session after it, and what it returned. An analysis that finishes
returns its statements, one that aborts raises and leaves the session as it stood then. -/
def step (s : Session) : Op → Session × Answer
  | .analyze source file =>
    match s.analyze source file with
    | .ok s' => (s', .nodes s'.nodes)
    | .error a => (a.left, .raised a.abort)
  | .ask q => (s, s.ask q)

/-- Runs calls in order from a session: the session after them, and what each call returned. A
call that raises does not end the run. -/
def run (s : Session) : List Op → Session × List Answer
  | [] => (s, [])
  | op :: ops =>
    let (s', a) := s.step op
    let (s'', as) := s'.run ops
    (s'', a :: as)

variable {source file : String}

@[simp] theorem start_config (c : Config) : (start c).config = c := rfl

theorem analyze_eq_start (s : Session) :
    s.analyze source file = ((start s.config).analyze source file).mapError
      fun a => ⟨a.abort, { a.left with collector := s.collector }⟩ := by
  dsimp only [analyze, start]
  cases Pass.runAll s.config.passes (Node.ofTokens (Token.scan source file)) <;> rfl

theorem step_analyze (s : Session) :
    s.step (.analyze source file) =
      match (start s.config).analyze source file with
      | .ok s' => (s', .nodes s'.nodes)
      | .error a => ({ a.left with collector := s.collector }, .raised a.abort) := by
  rw [step, analyze_eq_start]
  cases (start s.config).analyze source file <;> rfl

theorem analyze_config (s : Session) :
    (s.step (.analyze source file)).1.config = s.config := by
  dsimp only [step, analyze]
  cases Pass.runAll s.config.passes (Node.ofTokens (Token.scan source file)) <;> rfl

theorem run_config (s : Session) (ops : List Op) : (s.run ops).1.config = s.config := by
  induction ops generalizing s with
  | nil => rfl
  | cons op ops ih =>
    rw [run, ih]
    cases op with
    | analyze source file => exact analyze_config s
    | ask q => rfl

theorem run_append (s : Session) (h k : List Op) :
    s.run (h ++ k) = (((s.run h).1.run k).1, (s.run h).2 ++ ((s.run h).1.run k).2) := by
  induction h generalizing s with
  | nil => rfl
  | cons op h ih => simp only [List.cons_append, run, ih]

theorem run_asks (s : Session) (qs : List Query) : s.run (qs.map .ask) = (s, qs.map s.ask) := by
  induction qs with
  | nil => rfl
  | cons q qs ih => simp [run, step, ih]

end Session

theorem Pass.runAll_nil (ps : List Pass) : Pass.runAll ps [] = .ok ([], ps.map (·, 0)) := by
  induction ps with
  | nil => rfl
  | cons p ps ih =>
    have hp : p.run [] = .ok ([], 0) := by cases p <;> rfl
    simp [Pass.runAll, hp, ih, bind, Except.bind, pure, Except.pure]

theorem Token.scan_empty (file : String) : Token.scan "" file = [] := by
  simp [Token.scan, scanFrom]

namespace Session

theorem start_answers_as_empty (c : Config) (file : String) :
    ∃ s, (start c).analyze "" file = .ok s ∧ ∀ q, s.ask q = (start c).ask q := by
  have hparse : Node.ofTokens [] = [] := by rw [Node.ofTokens, nodesFrom]
  refine ⟨_, by simp only [analyze, Token.scan_empty, hparse, Pass.runAll_nil]; rfl,
    fun q => ?_⟩
  cases q <;> rfl

theorem analyze_trap_unreadable (s : Session) (hranges : s.config.checkRanges = true)
    (file : String) {n : Nat} (hn : Text.digitLimit < n) :
    ∃ a, s.analyze ("TRAP #" ++ String.ofList (List.replicate n '0')) file = .error a := by
  have htext : "TRAP #" ++ String.ofList (List.replicate n '0') =
      String.ofList ('T' :: 'R' :: 'A' :: 'P' :: ' ' :: '#' :: List.replicate n '0') := by
    rw [← String.toList_inj]
    simp only [String.toList_append, String.toList_ofList]
    rfl
  have hscan := @Token.scan_trap_decimal file (List.replicate n '0') fun c hc => by
    rw [List.eq_of_mem_replicate hc]
    decide
  cases ha : s.analyze ("TRAP #" ++ String.ofList (List.replicate n '0')) file with
  | error a => exact ⟨a, rfl⟩
  | ok s' =>
    -- a finished analysis has no check that aborts, but the literal check aborts on the vector
    exfalso
    have hnone := analyze_ok_iff.1 ⟨s', ha⟩
    have hmem : Pass.ranges ∈ s.config.passes := by simp [Config.passes, hranges]
    have hquiet := List.findSome?_eq_none_iff.1 hnone Pass.ranges hmem
    obtain ⟨hwf, hread⟩ := Numeral.toInt_replicate (d := '0') (by decide) (by decide) hn
    have hrun := Pass.run_after Pass.ranges []
      (Node.ofTokens (Token.scan ("TRAP #" ++ String.ofList (List.replicate n '0')) file))
    rw [hquiet, Pass.after_nil, Pass.run, htext, hscan,
      checkLiteralRanges_trap_unreadable hwf hread] at hrun
    cases hrun

/-- What an analysis returns after a history. One that finishes, and the calls after it, behave as
on a fresh session with the same settings; one that aborts leaves the fresh session's text, tokens
and statements beside the history's collector. Questions change nothing, and a fresh session
answers as after an empty text. -/
theorem run_history_independent (c : Config) (h ops : List Op) (source file : String) :
    (start c).run (h ++ .analyze source file :: ops) =
      Prod.map id (((start c).run h).2 ++ ·)
        (match (start c).analyze source file with
          | .ok _ => (start c).run (.analyze source file :: ops)
          | .error a => Prod.map id (.raised a.abort :: ·)
              ({ a.left with collector := ((start c).run h).1.collector }.run ops)) ∧
    (∀ (s : Session) (qs : List Query), s.run (qs.map .ask) = (s, qs.map s.ask)) ∧
    (∃ s, (start c).analyze "" file = .ok s ∧ ∀ q, s.ask q = (start c).ask q) ∧
    (start c).tokens = [] ∧ (start c).nodes = [] ∧ (start c).summary = "0 errors, 0 warnings" ∧
    (start c).failure? = none := by
  refine ⟨?_, run_asks, start_answers_as_empty c file, rfl, rfl, ?_, ?_⟩
  · -- the history leaves a session with the same settings, and the analysis reads no more of it
    -- than its collector, and that only when it aborts
    have hconfig := run_config (start c) h
    rw [run_append, run, step_analyze, hconfig, start_config]
    cases ha : (start c).analyze source file with
    | ok s => simp only [run, step, ha]; rfl
    | error a => rfl
  · show Collector.counted 0 "error" ++ ", " ++ Collector.counted 0 "warning" = _
    decide
  · simp [start, failure?, Collector.failure?, Collector.hasErrors, Config.collector]

/-- After an analysis that finds an undefined label, an analysis that aborts answers the count of
errors with the one of the analysis before it, where a fresh session answers none. -/
theorem run_aborted_keeps_errors :
    ((start {}).run [.analyze "BR X\n" "<input>",
        .analyze ("TRAP #" ++ String.ofList (List.replicate 4301 '0')) "<input>",
        .ask .errorCount]).2.getLast? = some (.count 1) ∧
    ((start {}).run [.analyze ("TRAP #" ++ String.ofList (List.replicate 4301 '0')) "<input>",
        .ask .errorCount]).2.getLast? = some (.count 0) := by
  obtain ⟨a, ha⟩ := analyze_trap_unreadable (start {}) rfl "<input>" (n := 4301) (by decide)
  obtain ⟨s₁, hs₁⟩ := @analyze_ok_of_length_le (start {}) "BR X\n" "<input>" (by decide)
  have herrors : s₁.errorCount = 1 := by
    have h : ((start {}).analyze "BR X\n" "<input>").toOption.map errorCount = some 1 := by
      decide +kernel
    rw [hs₁] at h
    exact Option.some.inj h
  have hconfig : s₁.config = {} := (analyze_analyzes hs₁).config_eq
  constructor
  · rw [run, step_analyze, start_config, hs₁]
    dsimp only
    rw [run, step_analyze, hconfig, ha]
    exact congrArg (fun n => some (Answer.count n)) herrors
  · rw [run, step_analyze, start_config, ha]
    rfl

end Session

end Lc3Lint
