import Mathlib
import Lc3Lint.Proofs.ReportLimit
/-! What a collector holds after any sequence of calls: the errors and warnings added since the last
clear, with their counts, verdict, summary and failure. -/
namespace Lc3Lint

namespace Collector

/-- A call on a collector: a change, a report over the given source lines, or the check that raises
the failure of the diagnostics. -/
inductive Call where
  | change (u : Update)
  | report (lines : Option (List String))
  | raise (lines : Option (List String))

inductive Reply where
  | changed
  | text (s : String)
  | raised (f : Option CheckFailure)
  deriving DecidableEq, Repr

def Call.change? : Call → Option Update
  | .change u => some u
  | .report _ => none
  | .raise _ => none

def perform (c : Collector) : Call → Collector × Reply
  | .change u => (c.update u, .changed)
  | .report lines => (c, .text (c.report lines))
  | .raise lines => (c, .raised (c.failure? lines))

def performAll : Collector → List Call → Collector × List Reply
  | c, [] => (c, [])
  | c, k :: ks =>
    let (c', r) := c.perform k
    let (c'', rs) := c'.performAll ks
    (c'', r :: rs)

variable (c : Collector)

theorem performAll_fst (ks : List Call) :
    (c.performAll ks).1 = (ks.filterMap Call.change?).foldl update c := by
  induction ks generalizing c with
  | nil => rfl
  | cons k ks ih => cases k <;> simp [performAll, perform, Call.change?, List.filterMap_cons, ih]

theorem warningsAsErrors_update (u : Update) : (c.update u).warningsAsErrors = c.warningsAsErrors := by
  cases u with
  | add d => exact warningsAsErrors_extend c [d]
  | extend ds => exact warningsAsErrors_extend c ds
  | clear => rfl

theorem warningsAsErrors_foldl_update (us : List Update) :
    (us.foldl update c).warningsAsErrors = c.warningsAsErrors := by
  induction us generalizing c with
  | nil => rfl
  | cons u us ih => rw [List.foldl_cons, ih, warningsAsErrors_update]

theorem counted_eq (n : Nat) (noun : String) :
    counted n noun = toString n ++ " " ++ (if n = 1 then noun else noun ++ "s") := by
  unfold counted
  -- interpolation passes the noun through `toString`, which leaves a string as it is
  split <;> simp [String.append_assoc] <;> rfl

theorem hasErrors_iff :
    c.hasErrors = true ↔ 0 < c.errorCount ∨ (c.warningsAsErrors = true ∧ 0 < c.warningCount) := by
  simp only [hasErrors, errorCount, warningCount, Bool.or_eq_true, Bool.and_eq_true,
    Bool.not_eq_true', List.isEmpty_eq_false_iff, ← List.length_pos_iff]
  exact Or.comm

theorem failure?_eq (lines : Option (List String)) :
    c.failure? lines =
      if c.hasErrors then some ⟨c.report lines, c.errorCount, c.warningCount⟩ else none := rfl

end Collector

/-- The collector invariant. After any calls on a fresh collector, it holds the errors and the
warnings added since the last clear, in order; its counts, verdict, summary and raised failure are
read off them; and a raising check changes nothing later calls find. -/
theorem collector_state (M : Int) (w : Bool) (ks : List Collector.Call)
    (lines : Option (List String)) :
    let c := (Collector.performAll { maxErrors := M, warningsAsErrors := w } ks).1
    let added := Collector.Update.sinceClear (ks.filterMap Collector.Call.change?)
    let E := added.filter (·.severity = .error)
    let W := added.filter (·.severity = .warning)
    c.errors = E ∧ c.warnings = W ∧ c.errorCount = E.length ∧ c.warningCount = W.length ∧
    (c.hasErrors = true ↔ 0 < E.length ∨ (w = true ∧ 0 < W.length)) ∧
    c.summary = toString E.length ++ " " ++ (if E.length = 1 then "error" else "errors") ++ ", " ++
      toString W.length ++ " " ++ (if W.length = 1 then "warning" else "warnings") ∧
    c.failure? lines =
      (if c.hasErrors then some ⟨c.report lines, E.length, W.length⟩ else none) ∧
    ∀ ks' : List Collector.Call,
      (Collector.performAll { maxErrors := M, warningsAsErrors := w }
        (ks ++ .raise lines :: ks')).1 =
      (Collector.performAll { maxErrors := M, warningsAsErrors := w } (ks ++ ks')).1 := by
  intro c added E W
  have hrun := Collector.foldl_update (c := { maxErrors := M, warningsAsErrors := w }) rfl rfl
    (ks.filterMap Collector.Call.change?)
  rw [← Collector.performAll_fst] at hrun
  -- the collector tests for errors only; there are two severities, so the rest are warnings
  have he : c.errors = E := by
    rw [hrun.1]
    exact List.filter_congr fun d _ => by cases h : d.severity <;> simp [Diagnostic.isError, h]
  have hw : c.warnings = W := by
    rw [hrun.2.1]
    exact List.filter_congr fun d _ => by cases h : d.severity <;> simp [Diagnostic.isError, h]
  have hwae : c.warningsAsErrors = w := by
    simp only [c, Collector.performAll_fst, Collector.warningsAsErrors_foldl_update]
  have hec : c.errorCount = E.length := by rw [Collector.errorCount, he]
  have hwc : c.warningCount = W.length := by rw [Collector.warningCount, hw]
  refine ⟨he, hw, hec, hwc, ?_, ?_, ?_, fun ks' => ?_⟩
  · rw [Collector.hasErrors_iff, hec, hwc, hwae]
  · rw [Collector.summary, Collector.counted_eq, Collector.counted_eq, hec, hwc]
    split_ifs <;> simp [String.append_assoc]
  · rw [Collector.failure?_eq, hec, hwc]
  · -- a raising check is no change
    simp only [Collector.performAll_fst, List.filterMap_append, List.filterMap_cons,
      Collector.Call.change?]

example :
    let d : Diagnostic := ⟨.error, "oops", ⟨"t.asm", 1, 1⟩, ⟨"t.asm", 1, 3⟩, none⟩
    (Collector.performAll { maxErrors := 1 }
        [.change (.add d), .raise none, .change (.extend [{ d with severity := .warning }, d])]).1
      |>.summary = "2 errors, 1 warning" := by decide +kernel

end Lc3Lint
