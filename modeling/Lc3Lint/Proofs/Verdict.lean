import Mathlib
import Lc3Lint.Proofs.Analysis
/-! The counts and the verdict of an analysis, check by check. -/
namespace Lc3Lint

def Node.refersUndeclared (ns : List Node) (n : Node) : Bool :=
  !n.kind.isError && n.kind.takesTarget &&
    match n.args.getLast?.map (·.lexeme) with
    | some (Lexeme.label x) => ns.all (·.name? != some x)
    | _ => false

def Node.malformedLiteral (n : Node) : Bool :=
  match n.literal? with
  | some lit => !lit.isWellFormed
  | none => false

def Node.literalOutOfField (n : Node) : Bool :=
  match n.literal?, n.field? with
  | some lit, some f =>
    match lit.value? with
    | some v => !f.contains v
    | none => false
  | _, _ => false

def redeclaredAfter (earlier : List (String × Location)) (ns : List Node) (k : Nat) : Bool :=
  match ns[k]?.bind Node.name? with
  | some x => earlier.any (·.1 == x) || (ns.take k).any (·.name? == some x)
  | none => false

def redeclaredAt (ns : List Node) (k : Nat) : Bool :=
  match ns[k]?.bind Node.name? with
  | some x => (ns.take k).any (·.name? == some x)
  | none => false

theorem countP_flatMap_diagnostics {ns : List Node} {p : Diagnostic → Bool} {q : Node → Bool}
    (h : ∀ n ∈ ns, n.diagnostics.countP p = if q n then 1 else 0) :
    (ns.flatMap (·.diagnostics)).countP p = ns.countP q := by
  induction ns with
  | nil => rfl
  | cons n ns ih =>
    rw [List.flatMap_cons, List.countP_append, h n List.mem_cons_self,
      ih fun m hm => h m (List.mem_cons_of_mem n hm), List.countP_cons, Nat.add_comm]

theorem countP_parsed_diagnostics {ts : List Token} {n : Node} (hn : n ∈ Node.ofTokens ts) :
    n.diagnostics.countP Diagnostic.isError = (if n.kind.isError then 1 else 0) ∧
    n.diagnostics.countP (!·.isError) = 0 := by
  obtain ⟨hs, hclean⟩ := shaped_clean_of_mem_ofTokens hn
  cases he : n.kind.isError with
  | false => simp [hclean he]
  | true =>
    obtain ⟨message, hint, hd, -⟩ := hs.failed he
    simp [hd, Diagnostic.isError]

theorem Node.diagnostics_attachFound (n : Node) (d : Option Diagnostic) :
    (n.attachFound d).diagnostics = n.diagnostics ++ d.toList := by
  rw [Node.attachFound_eq_extend]
  rfl

theorem flatMap_zipWith_attachFound_perm :
    ∀ (ms : List Node) (fs : List (Option Diagnostic)), ms.length = fs.length →
      ((ms.zipWith Node.attachFound fs).flatMap (·.diagnostics)).Perm
        (ms.flatMap (·.diagnostics) ++ fs.filterMap id)
  | [], [], _ => .nil
  | m :: ms, f :: fs, h => by
    have ih := flatMap_zipWith_attachFound_perm ms fs (by simpa using h)
    have hf : (f :: fs).filterMap id = f.toList ++ fs.filterMap id := by cases f <;> rfl
    rw [List.zipWith_cons_cons, List.flatMap_cons, Node.diagnostics_attachFound, List.flatMap_cons,
      hf, List.perm_iff_count]
    intro a
    have := List.perm_iff_count.1 ih a
    simp only [List.count_append] at this ⊢
    omega

theorem Pass.flatMap_after_perm (qs : List Pass) (ns : List Node) :
    ((after qs ns).flatMap (·.diagnostics)).Perm
      (ns.flatMap (·.diagnostics) ++ qs.flatMap fun q => (q.found ns).filterMap id) := by
  induction qs using List.reverseRecOn with
  | nil => simp
  | append_singleton qs p ih =>
    rw [← zipWith_after]
    refine (flatMap_zipWith_attachFound_perm _ _ (by simp [after])).trans ?_
    rw [List.flatMap_append, List.flatMap_singleton, ← List.append_assoc]
    exact ih.append_right _

theorem any_declareFirst (earlier : List (String × Location)) (n : Node) (x : String) :
    (declareFirst earlier n).any (·.1 == x) = (earlier.any (·.1 == x) || n.name? == some x) := by
  unfold declareFirst
  cases n.name? with
  | none => simp
  | some y =>
    dsimp only
    by_cases hy : earlier.any (·.1 == y) = true
    · rw [if_pos hy]
      by_cases hxy : y = x
      · subst hxy
        simp [hy]
      · simp [hxy]
    · rw [if_neg hy]
      simp

theorem any_foldl_declareFirst (ns : List Node) (earlier : List (String × Location)) (x : String) :
    (ns.foldl declareFirst earlier).any (·.1 == x) =
      (earlier.any (·.1 == x) || ns.any (·.name? == some x)) := by
  induction ns generalizing earlier with
  | nil => simp
  | cons n ns ih => rw [List.foldl_cons, ih, any_declareFirst, List.any_cons, Bool.or_assoc]

theorem contains_declaredLabels (ns : List Node) (x : String) :
    ((declaredLabels ns).map Prod.fst).contains x = ns.any (·.name? == some x) := by
  have h := any_foldl_declareFirst ns [] x
  rw [List.any_nil, Bool.false_or] at h
  rw [← h]
  change _ = (declaredLabels ns).any _
  rw [List.contains_eq_any_beq, List.any_map]
  congr 1
  funext a
  exact BEq.comm

theorem Node.undefinedReference?_isError (ns : List Node) (n : Node) :
    ((n.undefinedReference? ((declaredLabels ns).map Prod.fst)).map Diagnostic.isError).getD false =
      n.refersUndeclared ns := by
  unfold undefinedReference? target? refersUndeclared
  cases hk : n.kind.takesTarget with
  | false => simp
  | true =>
    rw [NodeKind.isError_of_takesTarget hk]
    cases n.args.getLast? with
    | none => simp
    | some t =>
      cases hx : t.lexeme with
      | label x =>
        simp only [hx, ite_true, Option.map_some, Bool.not_false, Bool.true_and]
        rw [contains_declaredLabels, List.all_eq_not_any_not]
        simp only [bne, Bool.not_not]
        cases ns.any (·.name? == some x) <;> simp [Diagnostic.isError]
      | _ => simp [hx]

theorem Node.undefinedReference?_not_warning (labels : List String) (n : Node) :
    ((n.undefinedReference? labels).map (!·.isError)).getD false = false := by
  unfold undefinedReference?
  split
  · split <;> simp [Diagnostic.isError]
  · simp

theorem Pass.countP_found_labels (ns : List Node) :
    ((Pass.labels.found ns).filterMap id).countP Diagnostic.isError =
        ns.countP (·.refersUndeclared ns) ∧
      ((Pass.labels.found ns).filterMap id).countP (!·.isError) = 0 := by
  rw [found, List.filterMap_map, Function.id_comp, List.countP_filterMap, List.countP_filterMap]
  refine ⟨?_, ?_⟩
  · congr 1
    funext n
    exact Node.undefinedReference?_isError ns n
  · rw [List.countP_eq_zero]
    intro n _
    simp [Node.undefinedReference?_not_warning]

theorem Node.literalProblem?_classify {n : Node} {r : Option Diagnostic}
    (h : n.literalProblem? = .ok r) :
    (r.map Diagnostic.isError).getD false = n.malformedLiteral ∧
      (r.map (!·.isError)).getD false = n.literalOutOfField := by
  rw [literalProblem?_unfold] at h
  unfold malformedLiteral literalOutOfField
  split at h
  · rename_i t lit _ hl
    rw [hl]
    by_cases hw : lit.isWellFormed = true
    · rw [if_neg (by simp [hw])] at h
      cases hf : n.field? with
      | none =>
        rw [hf] at h
        cases h
        simp [hw]
      | some f =>
        rw [hf] at h
        cases hv : lit.toInt with
        | error m =>
          rw [hv] at h
          cases h
        | ok v =>
          rw [hv] at h
          cases h
          have hval := Numeral.toInt_eq_value lit v hv
          cases hc : f.contains v <;> simp [hw, hc, hval, Diagnostic.isError]
    · rw [if_pos (by simp [hw])] at h
      cases h
      have hnone : lit.value? = none := by simpa [Numeral.isWellFormed] using hw
      cases n.field? <;> simp [hw, hnone, Diagnostic.isError]
  · rename_i hno
    cases h
    cases hl : n.literal? with
    | none => simp
    | some lit =>
      obtain ⟨t, ht, _⟩ := Option.bind_eq_some_iff.1 hl
      exact absurd hl (hno t lit ht)

theorem forall_ok_of_mapM_eq_ok {α β ε : Type} {f : α → Except ε β} :
    ∀ {xs : List α} {ys : List β}, xs.mapM f = .ok ys → ∀ x ∈ xs, ∃ y, f x = .ok y
  | [], _, _ => by simp
  | x :: xs, ys, h => by
    rw [List.mapM_cons] at h
    obtain ⟨y, hy, h⟩ := bind_eq_ok h
    obtain ⟨zs, hzs, -⟩ := bind_eq_ok h
    intro z hz
    rcases List.mem_cons.1 hz with rfl | hz
    · exact ⟨y, hy⟩
    · exact forall_ok_of_mapM_eq_ok hzs z hz

theorem Pass.countP_found_ranges {ns : List Node} (h : Pass.ranges.abort? ns = none) :
    ((Pass.ranges.found ns).filterMap id).countP Diagnostic.isError =
        ns.countP Node.malformedLiteral ∧
      ((Pass.ranges.found ns).filterMap id).countP (!·.isError) =
        ns.countP Node.literalOutOfField := by
  have hok : ∀ n ∈ ns, ∃ r, n.literalProblem? = .ok r := by
    cases hm : ns.mapM Node.literalProblem? with
    | error e => simp [abort?, hm] at h
    | ok fs => exact forall_ok_of_mapM_eq_ok hm
  rw [found, List.filterMap_map, Function.id_comp, List.countP_filterMap, List.countP_filterMap]
  constructor
  · apply List.countP_congr
    intro n hn
    obtain ⟨r, hr⟩ := hok n hn
    simp [hr, Except.toOption, ← (Node.literalProblem?_classify hr).1]
  · apply List.countP_congr
    intro n hn
    obtain ⟨r, hr⟩ := hok n hn
    simp [hr, Except.toOption, ← (Node.literalProblem?_classify hr).2]

theorem Node.redeclaration?_isSome (earlier : List (String × Location)) (n : Node) :
    (n.redeclaration? earlier).isSome =
      match n.name? with
      | some x => earlier.any (·.1 == x)
      | none => false := by
  unfold redeclaration?
  cases n.name? with
  | none => rfl
  | some x =>
    dsimp only
    rw [← List.isSome_find?]
    cases earlier.find? (·.1 == x) <;> rfl

theorem Node.redeclaration?_isError {earlier : List (String × Location)} {n : Node} {d : Diagnostic}
    (h : n.redeclaration? earlier = some d) : d.isError = true := by
  unfold redeclaration? at h
  split at h
  · split at h
    · cases h
      rfl
    · cases h
  · cases h

theorem redeclaredAfter_zero (earlier : List (String × Location)) (n : Node) (ns : List Node) :
    redeclaredAfter earlier (n :: ns) 0 = (n.redeclaration? earlier).isSome := by
  rw [Node.redeclaration?_isSome]
  unfold redeclaredAfter
  cases h : n.name? <;> simp [h]

theorem redeclaredAfter_succ (earlier : List (String × Location)) (n : Node) (ns : List Node)
    (k : Nat) :
    redeclaredAfter earlier (n :: ns) (k + 1) = redeclaredAfter (declareFirst earlier n) ns k := by
  unfold redeclaredAfter
  simp only [List.getElem?_cons_succ, List.take_succ_cons, List.any_cons]
  cases ns[k]?.bind Node.name? with
  | none => rfl
  | some x =>
    dsimp only
    rw [any_declareFirst, Bool.or_assoc]

theorem count_redeclarations (earlier : List (String × Location)) (ns : List Node) :
    ((redeclarations earlier ns).filterMap id).length =
      (List.range ns.length).countP (redeclaredAfter earlier ns) := by
  induction ns generalizing earlier with
  | nil => rfl
  | cons n ns ih =>
    have hrest : (List.range ns.length).countP (redeclaredAfter earlier (n :: ns) ∘ Nat.succ) =
        (List.range ns.length).countP (redeclaredAfter (declareFirst earlier n) ns) := by
      congr 1
      funext k
      exact redeclaredAfter_succ earlier n ns k
    rw [redeclarations, List.length_cons, List.range_succ_eq_map, List.countP_cons,
      List.countP_map, hrest, ← ih, redeclaredAfter_zero]
    cases h : n.redeclaration? earlier <;> simp [Nat.add_comm]

theorem isError_of_mem_redeclarations {earlier : List (String × Location)} {ns : List Node}
    {d : Diagnostic} (h : d ∈ (redeclarations earlier ns).filterMap id) : d.isError = true := by
  obtain ⟨o, ho, hod⟩ := List.mem_filterMap.1 h
  obtain ⟨k, hk⟩ := List.mem_iff_getElem?.1 ho
  obtain ⟨n, earlier', -, hd⟩ := @redeclarations_getElem? earlier ns k d (by rw [hk]; exact hod)
  exact Node.redeclaration?_isError hd

theorem Pass.countP_found_duplicates (ns : List Node) :
    ((Pass.duplicates.found ns).filterMap id).countP Diagnostic.isError =
        (List.range ns.length).countP (redeclaredAt ns) ∧
      ((Pass.duplicates.found ns).filterMap id).countP (!·.isError) = 0 := by
  have herr : ∀ d ∈ (redeclarations [] ns).filterMap id, d.isError = true :=
    fun d hd => isError_of_mem_redeclarations hd
  have hat : redeclaredAfter [] ns = redeclaredAt ns := by
    funext k
    unfold redeclaredAfter redeclaredAt
    cases ns[k]?.bind Node.name? <;> simp
  rw [found]
  constructor
  · rw [List.countP_eq_length.2 herr, count_redeclarations, hat]
  · rw [List.countP_eq_zero]
    intro d hd
    simp [herr d hd]

theorem countP_flatMap_passes (c : Config) (F : Pass → List Diagnostic) (p : Diagnostic → Bool) :
    (c.passes.flatMap F).countP p =
      (if c.checkLabels then (F .labels).countP p else 0) +
        (if c.checkRanges then (F .ranges).countP p else 0) +
        (if c.checkDuplicateLabels then (F .duplicates).countP p else 0) := by
  unfold Config.passes
  split_ifs <;> simp [Nat.add_assoc]

namespace Node

variable (n : Node)

@[simp] theorem kind_strip : n.strip.kind = n.kind := rfl
@[simp] theorem args_strip : n.strip.args = n.args := rfl
@[simp] theorem malformedLiteral_strip : n.strip.malformedLiteral = n.malformedLiteral := rfl
@[simp] theorem literalOutOfField_strip : n.strip.literalOutOfField = n.literalOutOfField := rfl

theorem refersUndeclared_strip (ns : List Node) :
    n.strip.refersUndeclared (ns.map strip) = n.refersUndeclared ns := by
  simp [refersUndeclared, List.all_map, Function.comp_def]

end Node

theorem redeclaredAt_strip (ns : List Node) : redeclaredAt (ns.map Node.strip) = redeclaredAt ns := by
  funext k
  cases hk : ns[k]? with
  | none => simp [redeclaredAt, hk]
  | some m => simp [redeclaredAt, hk, ← List.map_take, List.any_map, Function.comp_def]

theorem Pass.countP_after {f : List Node → Node → Bool}
    (hf : ∀ ms m, f (ms.map Node.strip) m.strip = f ms m) (qs : List Pass) (ns : List Node) :
    (after qs ns).countP (f (after qs ns)) = ns.countP (f ns) := by
  have key : ∀ ms : List Node,
      ms.countP (f ms) = (ms.map Node.strip).countP (f (ms.map Node.strip)) := by
    intro ms
    rw [List.countP_map]
    congr 1
    funext m
    exact (hf ms m).symm
  rw [key, strip_after, ← key]

theorem Pass.countP_redeclaredAt_after (qs : List Pass) (ns : List Node) :
    (List.range (after qs ns).length).countP (redeclaredAt (after qs ns)) =
      (List.range ns.length).countP (redeclaredAt ns) := by
  have hlen : (after qs ns).length = ns.length := by simp [after]
  rw [hlen, ← redeclaredAt_strip, strip_after, redeclaredAt_strip]

namespace Session

variable {s : Session} {c : Config} {source file : String}

theorem Analyzes.errorCount_eq (h : s.Analyzes c source file) :
    s.errorCount = (s.nodes.flatMap (·.diagnostics)).countP Diagnostic.isError := by
  rw [errorCount, Collector.errorCount, h.collector_eq, Collector.errors_extend,
    List.countP_eq_length_filter]
  simp [Config.collector]

theorem Analyzes.warningCount_eq (h : s.Analyzes c source file) :
    s.warningCount = (s.nodes.flatMap (·.diagnostics)).countP (!·.isError) := by
  rw [warningCount, Collector.warningCount, h.collector_eq, Collector.warnings_extend,
    List.countP_eq_length_filter]
  simp [Config.collector]

theorem Analyzes.hasErrors_iff (h : s.Analyzes c source file) :
    s.hasErrors = true ↔ 0 < s.errorCount ∨ (c.warningsAsErrors = true ∧ 0 < s.warningCount) := by
  rw [hasErrors, Collector.hasErrors, errorCount, warningCount, Collector.errorCount,
    Collector.warningCount, h.collector_eq, Collector.warningsAsErrors_extend]
  simp [Config.collector, List.length_pos_iff, or_comm]

theorem Analyzes.length_diagnostics (h : s.Analyzes c source file) :
    s.diagnostics.length = s.errorCount + s.warningCount := by
  unfold diagnostics
  rw [(List.mergeSort_perm _ _).length_eq,
    List.length_eq_countP_add_countP Diagnostic.isError, h.errorCount_eq, h.warningCount_eq]
  simp

end Session

/-- The counts and the verdict of an analysis decompose over the enabled checks: its errors are the
malformed statements and what each enabled check objects to, its warnings the literals outside
their field, and it fails on an error, or a warning when those count as errors. -/
theorem analyze_counts_verdict {s₀ s : Session} {source file : String}
    (h : s₀.analyze source file = .ok s) :
    s.errorCount = s.nodes.countP (·.kind.isError) +
        (if s₀.config.checkLabels then s.nodes.countP (·.refersUndeclared s.nodes) else 0) +
        (if s₀.config.checkRanges then s.nodes.countP Node.malformedLiteral else 0) +
        (if s₀.config.checkDuplicateLabels then
          (List.range s.nodes.length).countP (redeclaredAt s.nodes) else 0) ∧
    s.warningCount = (if s₀.config.checkRanges then s.nodes.countP Node.literalOutOfField else 0) ∧
    s.diagnostics.length = s.errorCount + s.warningCount ∧
    s.diagnostics.Perm (s.nodes.flatMap (·.diagnostics)) ∧
    (s.hasErrors = true ↔
      0 < s.errorCount ∨ (s₀.config.warningsAsErrors = true ∧ 0 < s.warningCount)) ∧
    s.failure? = if s.hasErrors then some ⟨s.report, s.errorCount, s.warningCount⟩ else none := by
  have ha := Session.analyze_analyzes h
  set c := s₀.config
  set ns := Node.ofTokens s.tokens
  -- the diagnostics are the parser's and every enabled check's findings on the fresh statements
  have hcount : ∀ p : Diagnostic → Bool, (s.nodes.flatMap (·.diagnostics)).countP p =
      (ns.flatMap (·.diagnostics)).countP p +
        (c.passes.flatMap fun q => (q.found ns).filterMap id).countP p := by
    intro p
    rw [ha.nodes_eq, (Pass.flatMap_after_perm c.passes ns).countP_eq, List.countP_append]
  have hparsed : (ns.flatMap (·.diagnostics)).countP Diagnostic.isError =
      ns.countP (·.kind.isError) ∧ (ns.flatMap (·.diagnostics)).countP (!·.isError) = 0 := by
    refine ⟨countP_flatMap_diagnostics fun n hn => (countP_parsed_diagnostics hn).1, ?_⟩
    rw [countP_flatMap_diagnostics (q := fun _ => false)
      fun n hn => by simp [(countP_parsed_diagnostics hn).2]]
    simp
  have hranges : c.checkRanges = true → Pass.ranges.abort? ns = none := fun hr =>
    List.findSome?_eq_none_iff.1 ha.no_abort _ (by simp [c, Config.passes, hr])
  -- the counts read no diagnostics, so they are those of the fresh statements
  have hE : s.nodes.countP (·.kind.isError) = ns.countP (·.kind.isError) := by
    rw [ha.nodes_eq]
    exact Pass.countP_after (f := fun _ m => m.kind.isError) (fun _ _ => rfl) _ _
  have hL : s.nodes.countP (·.refersUndeclared s.nodes) = ns.countP (·.refersUndeclared ns) := by
    rw [ha.nodes_eq]
    exact Pass.countP_after (f := fun ms m => m.refersUndeclared ms)
      (fun ms m => Node.refersUndeclared_strip m ms) _ _
  have hM : s.nodes.countP Node.malformedLiteral = ns.countP Node.malformedLiteral := by
    rw [ha.nodes_eq]
    exact Pass.countP_after (f := fun _ m => m.malformedLiteral) (fun _ m => rfl) _ _
  have hO : s.nodes.countP Node.literalOutOfField = ns.countP Node.literalOutOfField := by
    rw [ha.nodes_eq]
    exact Pass.countP_after (f := fun _ m => m.literalOutOfField) (fun _ m => rfl) _ _
  have hD : (List.range s.nodes.length).countP (redeclaredAt s.nodes) =
      (List.range ns.length).countP (redeclaredAt ns) := by
    rw [ha.nodes_eq]
    exact Pass.countP_redeclaredAt_after _ _
  refine ⟨?_, ?_, ha.length_diagnostics, List.mergeSort_perm _ _, ha.hasErrors_iff, rfl⟩
  · rw [ha.errorCount_eq, hcount, hparsed.1, countP_flatMap_passes,
      (Pass.countP_found_labels ns).1, (Pass.countP_found_duplicates ns).1, hE, hL, hM, hD]
    by_cases hr : c.checkRanges = true
    · rw [(Pass.countP_found_ranges (hranges hr)).1]
      simp only [Nat.add_assoc]
    · simp [hr, Nat.add_assoc]
  · rw [ha.warningCount_eq, hcount, hparsed.2, countP_flatMap_passes,
      (Pass.countP_found_labels ns).2, (Pass.countP_found_duplicates ns).2, hO]
    by_cases hr : c.checkRanges = true
    · rw [(Pass.countP_found_ranges (hranges hr)).2]
      simp
    · simp [hr]

theorem analyze_counts_verdict_sample :
    ∃ s, (Session.start {}).analyze "BR NOPE\nTRAP x1FF\nA HALT\nA HALT" "f" = .ok s ∧
      s.errorCount = s.nodes.countP (·.kind.isError) +
          (if (Session.start {}).config.checkLabels then
            s.nodes.countP (·.refersUndeclared s.nodes) else 0) +
          (if (Session.start {}).config.checkRanges then
            s.nodes.countP Node.malformedLiteral else 0) +
          (if (Session.start {}).config.checkDuplicateLabels then
            (List.range s.nodes.length).countP (redeclaredAt s.nodes) else 0) ∧
      s.warningCount = (if (Session.start {}).config.checkRanges then
          s.nodes.countP Node.literalOutOfField else 0) ∧
      s.diagnostics.length = s.errorCount + s.warningCount ∧
      s.diagnostics.Perm (s.nodes.flatMap (·.diagnostics)) ∧
      (s.hasErrors = true ↔ 0 < s.errorCount ∨
        ((Session.start {}).config.warningsAsErrors = true ∧ 0 < s.warningCount)) ∧
      s.failure? = if s.hasErrors then some ⟨s.report, s.errorCount, s.warningCount⟩ else none := by
  obtain ⟨s, hs⟩ := @Session.analyze_ok_of_length_le (Session.start {})
    "BR NOPE\nTRAP x1FF\nA HALT\nA HALT" "f" (by decide)
  exact ⟨s, hs, analyze_counts_verdict hs⟩

end Lc3Lint
