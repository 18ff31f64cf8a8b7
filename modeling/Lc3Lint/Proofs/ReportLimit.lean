import Mathlib
import Lc3Lint.Proofs.Analysis
/-! The error limit of a report: the listed errors are the first `M` in source order, every warning is
listed, and a line counts the errors left out. -/
namespace Lc3Lint

namespace Collector

inductive Update where
  | add (d : Diagnostic)
  | extend (ds : List Diagnostic)
  | clear
  deriving DecidableEq, Repr

namespace Update

def added : Update → List Diagnostic
  | add d => [d]
  | extend ds => ds
  | clear => []

def isClear : Update → Bool
  | clear => true
  | _ => false

def sinceClear (us : List Update) : List Diagnostic :=
  (us.reverse.takeWhile (!·.isClear)).reverse.flatMap added

theorem sinceClear_append_singleton (us : List Update) (u : Update) :
    sinceClear (us ++ [u]) = if u.isClear then [] else sinceClear us ++ u.added := by
  cases u <;> simp [sinceClear, isClear, added]

end Update

def update (c : Collector) : Update → Collector
  | .add d => c.add d
  | .extend ds => c.extend ds
  | .clear => c.clear

variable (c : Collector) (u : Update)

theorem errors_update :
    (c.update u).errors = (if u.isClear then [] else c.errors) ++ u.added.filter Diagnostic.isError := by
  cases u with
  | add d => exact errors_extend c [d]
  | extend ds => simp [update, Update.added, Update.isClear]
  | clear => rfl

theorem warnings_update : (c.update u).warnings =
    (if u.isClear then [] else c.warnings) ++ u.added.filter (!·.isError) := by
  cases u with
  | add d => exact warnings_extend c [d]
  | extend ds => simp [update, Update.added, Update.isClear]
  | clear => rfl

theorem maxErrors_update : (c.update u).maxErrors = c.maxErrors := by
  cases u with
  | add d => by_cases hd : d.isError = true <;> simp [update, add, hd]
  | extend ds =>
    simp only [update, extend]
    induction ds generalizing c with
    | nil => rfl
    | cons d ds ih =>
      rw [List.foldl_cons, ih]
      by_cases hd : d.isError = true <;> simp [add, hd]
  | clear => rfl

theorem foldl_update {c : Collector} (he : c.errors = []) (hw : c.warnings = [])
    (us : List Update) :
    (us.foldl update c).errors = (Update.sinceClear us).filter Diagnostic.isError ∧
    (us.foldl update c).warnings = (Update.sinceClear us).filter (!·.isError) ∧
    (us.foldl update c).maxErrors = c.maxErrors := by
  induction us using List.reverseRecOn with
  | nil => simp [Update.sinceClear, he, hw]
  | append_singleton us u ih =>
    obtain ⟨ihe, ihw, ihm⟩ := ih
    rw [List.foldl_append, List.foldl_cons, List.foldl_nil, errors_update, warnings_update,
      maxErrors_update, ihe, ihw, ihm, Update.sinceClear_append_singleton]
    cases u <;> simp [Update.isClear, Update.added]

end Collector

/-- The diagnostics of `L` listed when `shown` errors are listed before them: every warning, and
each error while fewer than `M` errors are listed. -/
def listedFrom (M : Int) (shown : Nat) (L : List Diagnostic) : List Diagnostic :=
  (L.zipIdx.filter fun p =>
    !p.1.isError || (((shown + (L.take p.2).countP Diagnostic.isError : Nat) : Int) < M)).map Prod.fst

def listedUnder (M : Int) (L : List Diagnostic) : List Diagnostic :=
  (L.zipIdx.filter fun p =>
    !p.1.isError || (((L.take p.2).countP Diagnostic.isError : Nat) : Int) < M).map Prod.fst

section Listed

variable (M : Int)

theorem listedUnder_eq (L : List Diagnostic) : listedUnder M L = listedFrom M 0 L := by
  simp [listedUnder, listedFrom]

@[simp] theorem listedFrom_nil (shown : Nat) : listedFrom M shown [] = [] := rfl

theorem listedFrom_cons (shown : Nat) (d : Diagnostic) (L : List Diagnostic) :
    listedFrom M shown (d :: L) =
      (if !d.isError || (shown : Int) < M then [d] else []) ++
        listedFrom M (shown + if d.isError then 1 else 0) L := by
  -- the positions of `L` are one further on in `d :: L`, past one more error if `d` is one
  have htail : ((L.zipIdx 1).filter fun p => !p.1.isError ||
        (((shown + ((d :: L).take p.2).countP Diagnostic.isError : Nat) : Int) < M)).map Prod.fst =
      listedFrom M (shown + if d.isError then 1 else 0) L := by
    rw [List.zipIdx_succ, List.filter_map, List.map_map, listedFrom]
    congr 1
    congr 1
    funext p
    simp only [Function.comp, List.take_succ_cons, List.countP_cons]
    congr 3
    omega
  rw [listedFrom, List.zipIdx_cons, List.filter_cons, List.take_zero, List.countP_nil,
    Nat.add_zero]
  split
  · rw [List.map_cons, htail]
    rfl
  · rw [htail]
    rfl

theorem filter_warnings_listedFrom (shown : Nat) (L : List Diagnostic) :
    (listedFrom M shown L).filter (!·.isError) = L.filter (!·.isError) := by
  induction L generalizing shown with
  | nil => rfl
  | cons d L ih =>
    rw [listedFrom_cons, List.filter_append, ih]
    by_cases hd : d.isError = true <;> simp [hd]

theorem filter_errors_listedFrom (shown : Nat) (L : List Diagnostic) :
    (listedFrom M shown L).filter Diagnostic.isError =
      (L.filter Diagnostic.isError).take (M - shown).toNat := by
  induction L generalizing shown with
  | nil => simp
  | cons d L ih =>
    rw [listedFrom_cons, List.filter_append, ih]
    by_cases hd : d.isError = true
    · by_cases hlt : (shown : Int) < M
      · -- room for `d`: it is listed, with room for one error less after it
        have hroom : (M - shown).toNat = (M - ↑(shown + 1)).toNat + 1 := by omega
        simp [hd, hlt, hroom]
      · -- no room: neither `d` nor any later error is listed
        have hfull : (M - shown).toNat = 0 := by omega
        have hfull' : (M - ↑(shown + 1)).toNat = 0 := by omega
        rw [if_pos hd, hfull', hfull, List.take_zero, List.take_zero]
        simp [hd, hlt]
    · simp [hd]

end Listed

theorem listedFrom_succ_of_le (M : Int) {shown : Nat} (h : M ≤ shown) (L : List Diagnostic) :
    listedFrom M (shown + 1) L = listedFrom M shown L := by
  unfold listedFrom
  congr 1
  apply List.filter_congr
  intro p _
  by_cases hp : p.1.isError = true
  · simp only [hp, Bool.not_true, Bool.false_or, decide_eq_decide]
    omega
  · simp [hp]

def writeStep (M : Int) (block : Diagnostic → List String) (acc : List String × Nat)
    (d : Diagnostic) : List String × Nat :=
  if d.isError && M ≤ acc.2 then acc
  else (acc.1 ++ block d, if d.isError then acc.2 + 1 else acc.2)

theorem foldl_writeStep (M : Int) (block : Diagnostic → List String) (L : List Diagnostic)
    (out : List String) (shown : Nat) :
    L.foldl (writeStep M block) (out, shown) =
      (out ++ (listedFrom M shown L).flatMap block,
        shown + min (L.countP Diagnostic.isError) (M - shown).toNat) := by
  induction L generalizing out shown with
  | nil => simp
  | cons d L ih =>
    rw [List.foldl_cons, listedFrom_cons, List.countP_cons]
    by_cases hd : d.isError = true
    · by_cases hlt : (shown : Int) < M
      · have hstep : writeStep M block (out, shown) d = (out ++ block d, shown + 1) := by
          simp [writeStep, hd, Int.not_le.2 hlt]
        rw [hstep, ih]
        simp only [hd, hlt, Bool.not_true, Bool.false_or, decide_true, if_true,
          List.singleton_append, List.flatMap_cons, List.append_assoc, Prod.mk.injEq, true_and]
        omega
      · have hstep : writeStep M block (out, shown) d = (out, shown) := by
          simp [writeStep, hd, Int.not_lt.1 hlt]
        rw [hstep, ih]
        -- past the limit the count stays, and so do the later errors' blocks
        simp only [hd, hlt, Bool.not_true, Bool.false_or, decide_false, Bool.false_eq_true,
          if_true, if_false, List.nil_append, listedFrom_succ_of_le M (Int.not_lt.1 hlt),
          Prod.mk.injEq, true_and]
        omega
    · have hstep : writeStep M block (out, shown) d = (out ++ block d, shown) := by
        simp [writeStep, hd]
      rw [hstep, ih]
      simp [hd]

namespace Collector

variable (c : Collector)

def sourceLine (lines : Option (List String)) (n : Int) : Option String :=
  match lines with
  | some ls => if 1 ≤ n ∧ n ≤ ls.length then some (ls.getD (n - 1).toNat "") else none
  | none => none

theorem lineAt_eq_sourceLine (lines : Option (List String)) (n : Int) :
    lineAt lines n = sourceLine lines n := by
  cases lines with
  | none => rfl
  | some ls =>
    simp only [lineAt, sourceLine]
    by_cases h : 1 ≤ n ∧ n ≤ ls.length
    · rw [if_pos h, if_pos h.1, List.getD_eq_getElem _ _ (by omega), List.getElem?_eq_getElem]
    · rw [if_neg h]
      split
      · exact List.getElem?_eq_none (by omega)
      · rfl

theorem blocks_eq (lines : Option (List String)) (style : SeverityStyle) :
    c.blocks lines style = c.ordered.foldl
      (writeStep c.maxErrors fun d => [d.render (lineAt lines d.start.line) style, ""]) ([], 0) :=
  rfl

theorem report_eq (lines : Option (List String)) (style : SeverityStyle) :
    c.report lines style = "\n".intercalate
      ((listedUnder c.maxErrors c.ordered).flatMap
          (fun d => [d.render (sourceLine lines d.start.line) style, ""]) ++
        (if 0 < c.errorCount - min (c.ordered.countP Diagnostic.isError) c.maxErrors.toNat then
          [s!"... {c.errorCount - min (c.ordered.countP Diagnostic.isError) c.maxErrors.toNat} more errors not shown (limit {c.maxErrors})"]
        else []) ++
        [c.summary]) := by
  rw [report, blocks_eq, foldl_writeStep, listedUnder_eq]
  simp only [List.nil_append, Nat.zero_add, Int.sub_zero, Nat.cast_zero, lineAt_eq_sourceLine,
    gt_iff_lt]

end Collector

/-- The report truncation law. After any additions and clears, a report lists in source order every
warning and each error that fewer than `M` errors precede, then a line counting the errors left out
when there are any, then the summary. -/
theorem report_error_limit (M : Int) (w : Bool) (us : List Collector.Update)
    (lines : Option (List String)) (style : SeverityStyle) :
    let c := us.foldl Collector.update { maxErrors := M, warningsAsErrors := w }
    let E := (Collector.Update.sinceClear us).filter Diagnostic.isError
    let W := (Collector.Update.sinceClear us).filter (!·.isError)
    let L := (E ++ W).mergeSort fun a b => a.start.atOrBefore b.start
    let K := E.length - min E.length M.toNat
    c.report lines style = "\n".intercalate
        ((listedUnder M L).flatMap
            (fun d => [d.render (Collector.sourceLine lines d.start.line) style, ""]) ++
          (if 0 < K then [s!"... {K} more errors not shown (limit {M})"] else []) ++
          [Collector.counted E.length "error" ++ ", " ++ Collector.counted W.length "warning"]) ∧
    (listedUnder M L).filter (!·.isError) = L.filter (!·.isError) ∧
    (listedUnder M L).filter Diagnostic.isError = (L.filter Diagnostic.isError).take M.toNat := by
  intro c E W L K
  have hrun := Collector.foldl_update (c := { maxErrors := M, warningsAsErrors := w }) rfl rfl us
  have he : c.errors = E := hrun.1
  have hw : c.warnings = W := hrun.2.1
  have hm : c.maxErrors = M := hrun.2.2
  have hord : c.ordered = L := by rw [Collector.ordered, he, hw]
  -- sorting keeps the errors, and only `E` holds errors
  have hcount : L.countP Diagnostic.isError = E.length := by
    rw [(List.mergeSort_perm _ _).countP_eq, List.countP_append, List.countP_eq_length_filter,
      List.countP_eq_length_filter]
    simp [E, W, List.filter_filter]
  refine ⟨?_, ?_, ?_⟩
  · rw [Collector.report_eq, hord, hm, hcount]
    simp only [Collector.summary, Collector.errorCount, Collector.warningCount, he, hw]
    rfl
  · rw [listedUnder_eq, filter_warnings_listedFrom]
  · rw [listedUnder_eq, filter_errors_listedFrom, Nat.cast_zero, Int.sub_zero]

end Lc3Lint
