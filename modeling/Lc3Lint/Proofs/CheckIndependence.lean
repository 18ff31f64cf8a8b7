import Mathlib
import Lc3Lint.Session
import Lc3Lint.Proofs.NodeShape
/-! The three checks over statements do not interfere: what a check finds depends on nothing a
check writes, so any sequence of checks attaches what each finds on the fresh statements. -/
namespace Lc3Lint

/-- A statement without its diagnostics: all that the checks read of it. -/
def Node.strip (n : Node) : Node := { n with diagnostics := [] }

def Node.extend (n : Node) (ds : List Diagnostic) : Node :=
  { n with diagnostics := n.diagnostics ++ ds }

namespace Node

variable (n : Node)

@[simp] theorem strip_extend (ds : List Diagnostic) : (n.extend ds).strip = n.strip := rfl

@[simp] theorem extend_nil : n.extend [] = n := by simp [extend]

theorem attachFound_eq_extend (d : Option Diagnostic) : n.attachFound d = n.extend d.toList := by
  cases d <;> simp [attachFound, attach, extend]

theorem extend_extend (ds es : List Diagnostic) :
    (n.extend ds).extend es = n.extend (ds ++ es) := by
  simp [extend]

@[simp] theorem undefinedReference?_strip (labels : List String) :
    n.strip.undefinedReference? labels = n.undefinedReference? labels := rfl

@[simp] theorem literalProblem?_strip : n.strip.literalProblem? = n.literalProblem? := rfl

@[simp] theorem redeclaration?_strip (earlier : List (String × Location)) :
    n.strip.redeclaration? earlier = n.redeclaration? earlier := rfl

@[simp] theorem name?_strip : n.strip.name? = n.name? := rfl

@[simp] theorem start_strip : n.strip.start = n.start := rfl

end Node

theorem Text.showInteger_of_lt {v : Int} (h : v.natAbs < 10 ^ Text.digitLimit) :
    Text.showInteger v = .ok (toString v) := by
  unfold Text.showInteger
  rw [Nat.pow_eq, if_neg (Nat.not_le.2 h)]

theorem Radix.showBound_of_lt (r : Radix) {v : Int} (h : v.natAbs < 10 ^ Text.digitLimit) :
    r.showBound v = .ok (r.render v) := by
  cases r with
  | hex => rfl
  | decimal =>
    unfold Radix.showBound
    rw [Text.showInteger_of_lt h]
    rfl

theorem OperandField.natAbs_bounds_le (f : OperandField) (hf : f.bits ≤ 16) :
    f.minimum.natAbs ≤ 2 ^ 16 ∧ f.maximum.natAbs ≤ 2 ^ 16 := by
  have hp : (2 : Int) ^ (f.bits - 1) ≤ 2 ^ 16 := pow_le_pow_right₀ (by norm_num) (by omega)
  have hq : (2 : Int) ^ f.bits ≤ 2 ^ 16 := pow_le_pow_right₀ (by norm_num) hf
  have hp0 : 0 < (2 : Int) ^ (f.bits - 1) := by positivity
  have hq0 : 0 < (2 : Int) ^ f.bits := by positivity
  unfold OperandField.minimum OperandField.maximum
  simp only [Int.pow_eq]
  split <;> omega

theorem outOfRangeMessage?_of_bits_le (lit : Numeral) {f : OperandField} (hf : f.bits ≤ 16) :
    outOfRangeMessage? lit f = .ok (outOfRangeMessage lit f) := by
  have hlimit : (2 : Nat) ^ 16 < 10 ^ Text.digitLimit :=
    lt_of_lt_of_le (by norm_num) (Nat.pow_le_pow_right (by norm_num) (by decide : 5 ≤ Text.digitLimit))
  obtain ⟨hmin, hmax⟩ := f.natAbs_bounds_le hf
  rw [outOfRangeMessage?, Radix.showBound_of_lt _ (by omega), Radix.showBound_of_lt _ (by omega)]
  rfl

theorem Node.bits_le_of_field? {n : Node} {f : OperandField} (h : n.field? = some f) :
    f.bits ≤ 16 := by
  unfold Node.field? at h
  split at h
  · rename_i op _
    cases op <;> simp [Opcode.signature] at h <;> subst h <;> decide
  · split at h
    · rename_i d _
      cases d <;> simp [Directive.signature] at h <;> subst h <;> decide
    · cases h

theorem Node.literalProblem?_unfold (n : Node) :
    n.literalProblem? =
      match n.literalArg?, n.literal? with
      | some t, some lit =>
        if !lit.isWellFormed then
          .ok (some { severity := .error, message := s!"Invalid number literal `{lit.text}`",
                      start := t.start, last := t.last, hint := some lit.radix.example })
        else match n.field? with
          | none => .ok none
          | some f => match lit.toInt with
            | .error m => .error ⟨m⟩
            | .ok v =>
              .ok (if f.contains v then none
                else some { severity := .warning, message := outOfRangeMessage lit f,
                            start := t.start, last := t.last })
      | _, _ => .ok none := by
  unfold Node.literalProblem?
  rcases n.literalArg? with _ | t <;> rcases n.literal? with _ | lit
  iterate 3 rfl
  dsimp only
  split
  · rfl
  · cases hf : n.field? with
    | none => rfl
    | some f =>
      -- the bounds of the statement's field always show, so the message is the full one
      dsimp only
      cases lit.toInt with
      | error m => rfl
      | ok v =>
        dsimp only
        rw [outOfRangeMessage?_of_bits_le _ (Node.bits_le_of_field? hf)]
        split <;> rfl

def declareFirst (earlier : List (String × Location)) (n : Node) : List (String × Location) :=
  match n.name? with
  | some x => if earlier.any (·.1 == x) then earlier else earlier ++ [(x, n.start)]
  | none => earlier

def redeclarations : List (String × Location) → List Node → List (Option Diagnostic)
  | _, [] => []
  | earlier, n :: rest => n.redeclaration? earlier :: redeclarations (declareFirst earlier n) rest

theorem markRedeclarations_eq (earlier : List (String × Location)) (ns : List Node) :
    markRedeclarations earlier ns = (ns.zipWith Node.attachFound (redeclarations earlier ns),
      ((redeclarations earlier ns).filterMap id).length) := by
  induction ns generalizing earlier with
  | nil => rfl
  | cons n rest ih =>
    -- the model keeps the first declarations in a match of its own, equal to declareFirst
    rw [redeclarations]
    simp only [markRedeclarations, ih]
    cases n.redeclaration? earlier <;> rfl

theorem redeclarations_strip (earlier : List (String × Location)) (ns : List Node) :
    redeclarations earlier (ns.map Node.strip) = redeclarations earlier ns := by
  induction ns generalizing earlier with
  | nil => rfl
  | cons n rest ih => simp [redeclarations, declareFirst, ih]

@[simp] theorem length_redeclarations (earlier : List (String × Location)) (ns : List Node) :
    (redeclarations earlier ns).length = ns.length := by
  induction ns generalizing earlier with
  | nil => rfl
  | cons n rest ih => simp [redeclarations, ih]

theorem declaredLabels_strip (ns : List Node) :
    declaredLabels (ns.map Node.strip) = declaredLabels ns := by
  simp only [declaredLabels, List.foldl_map]
  rfl

namespace Pass

/-- What a check finds on each statement of `ns`: one diagnostic at most each. The literal check
finds nothing on a statement whose literal cannot be read; it aborts there instead. -/
def found : Pass → List Node → List (Option Diagnostic)
  | labels, ns => ns.map (Node.undefinedReference? ((declaredLabels ns).map Prod.fst))
  | ranges, ns => ns.map fun n => n.literalProblem?.toOption.join
  | duplicates, ns => redeclarations [] ns

def abort? : Pass → List Node → Option AnalysisAbort
  | ranges, ns => match ns.mapM Node.literalProblem? with
    | .error e => some e
    | .ok _ => none
  | _, _ => none

def count (p : Pass) (ns : List Node) : Nat := ((p.found ns).filterMap id).length

def findingAt (p : Pass) (ns : List Node) (k : Nat) : Option Diagnostic := ((p.found ns)[k]?).join

@[simp] theorem length_found (p : Pass) (ns : List Node) : (p.found ns).length = ns.length := by
  cases p <;> simp [found]

theorem mapM_literalProblem? {ns : List Node} {fs : List (Option Diagnostic)}
    (h : ns.mapM Node.literalProblem? = .ok fs) :
    fs = ns.map fun n => n.literalProblem?.toOption.join := by
  induction ns generalizing fs with
  | nil => simpa [pure, Except.pure] using h.symm
  | cons n rest ih =>
    cases hn : n.literalProblem? with
    | error e => simp [List.mapM_cons, hn, bind, Except.bind] at h
    | ok d =>
      cases hr : rest.mapM Node.literalProblem? with
      | error e => simp [List.mapM_cons, hn, hr, bind, Except.bind] at h
      | ok gs =>
        simp only [List.mapM_cons, hn, hr, bind, Except.bind, pure, Except.pure,
          Except.ok.injEq] at h
        simp [← h, ih hr, hn, Except.toOption]

theorem run_eq (p : Pass) (ns : List Node) :
    p.run ns = match p.abort? ns with
      | some e => .error e
      | none => .ok (ns.zipWith Node.attachFound (p.found ns), p.count ns) := by
  cases p with
  | labels =>
    simp [run, abort?, resolveLabels, found, count, List.zipWith_map_right, List.zipWith_self,
      List.filterMap_map]
  | duplicates => simp [run, abort?, checkDuplicateLabels, markRedeclarations_eq, found, count]
  | ranges =>
    cases h : ns.mapM Node.literalProblem? with
    | error e => simp [run, abort?, checkLiteralRanges, h, bind, Except.bind]
    | ok fs =>
      have hfs := mapM_literalProblem? h
      simp only [run, abort?, checkLiteralRanges, h, bind, Except.bind, pure, Except.pure]
      simp [found, count, ← hfs, List.zip, List.map_zipWith]

theorem found_strip (p : Pass) (ns : List Node) : p.found (ns.map Node.strip) = p.found ns := by
  cases p <;> simp [found, declaredLabels_strip, redeclarations_strip, Function.comp_def]

theorem abort?_strip (p : Pass) (ns : List Node) : p.abort? (ns.map Node.strip) = p.abort? ns := by
  cases p <;> simp [abort?, List.mapM_map, Function.comp_def]

def addedAt (qs : List Pass) (ns : List Node) (k : Nat) : List Diagnostic :=
  qs.filterMap fun q => q.findingAt ns k

def after (qs : List Pass) (ns : List Node) : List Node :=
  ns.mapIdx fun k n => n.extend (addedAt qs ns k)

theorem getElem?_after (qs : List Pass) (ns : List Node) (k : Nat) :
    (after qs ns)[k]? = ns[k]?.map (·.extend (addedAt qs ns k)) := by
  simp [after, List.getElem?_mapIdx]

@[simp] theorem after_nil (ns : List Node) : after [] ns = ns := by
  apply List.ext_getElem?
  intro k
  simp [getElem?_after, addedAt]

theorem strip_after (qs : List Pass) (ns : List Node) :
    (after qs ns).map Node.strip = ns.map Node.strip := by
  apply List.ext_getElem?
  intro k
  simp [getElem?_after, Function.comp_def]

section After

variable (p : Pass) (qs : List Pass) (ns : List Node)

theorem found_after : p.found (after qs ns) = p.found ns := by
  rw [← found_strip, strip_after, found_strip]

theorem abort?_after : p.abort? (after qs ns) = p.abort? ns := by
  rw [← abort?_strip, strip_after, abort?_strip]

theorem count_after : p.count (after qs ns) = p.count ns := by
  simp [count, found_after]

theorem zipWith_after :
    (after qs ns).zipWith Node.attachFound (p.found ns) = after (qs ++ [p]) ns := by
  apply List.ext_getElem?
  intro k
  rw [List.getElem?_zipWith, getElem?_after, getElem?_after]
  cases hn : ns[k]? with
  | none => simp
  | some n =>
    -- a check finds one entry per statement, so the zip drops none of them
    have hk : k < (p.found ns).length := by
      simpa using (List.getElem?_eq_some_iff.1 hn).1
    obtain ⟨f, hf⟩ : ∃ f, (p.found ns)[k]? = some f := ⟨_, List.getElem?_eq_getElem hk⟩
    have hat : p.findingAt ns k = f := by simp [findingAt, hf]
    cases f <;> simp [hf, addedAt, hat, Node.attachFound_eq_extend, Node.extend_extend]

theorem run_after : p.run (after qs ns) = match p.abort? ns with
    | some e => .error e
    | none => .ok (after (qs ++ [p]) ns, p.count ns) := by
  rw [run_eq, abort?_after, found_after, count_after, zipWith_after]

end After

theorem steps_after (ps qs : List Pass) (ns : List Node) :
    Pass.steps ps (after qs ns) = match ps.findSome? (·.abort? ns) with
      | some e => .error e
      | none => .ok (ps.mapIdx fun i p => (p, p.count ns, after (qs ++ ps.take (i + 1)) ns)) := by
  induction ps generalizing qs with
  | nil => rfl
  | cons p ps ih =>
    rw [Pass.steps, run_after, List.findSome?_cons]
    cases p.abort? ns with
    | some e => rfl
    | none =>
      -- after the first check the statements are those after the checks `qs ++ [p]`
      simp only [bind, Except.bind, ih (qs ++ [p])]
      cases ps.findSome? (·.abort? ns) with
      | some e => rfl
      | none => simp [List.mapIdx_cons, List.append_assoc, pure, Except.pure]

@[simp] theorem addedAt_cons (q : Pass) (qs : List Pass) (ns : List Node) (k : Nat) :
    addedAt (q :: qs) ns k = (q.findingAt ns k).toList ++ addedAt qs ns k := by
  cases h : q.findingAt ns k <;> simp [addedAt, h]

section Unique

variable {ns : List Node} {k : Nat} {p : Pass} {d : Diagnostic}

theorem addedAt_eq_replicate (hp : p.findingAt ns k = some d)
    (hq : ∀ q, q ≠ p → q.findingAt ns k = none) (qs : List Pass) :
    addedAt qs ns k = List.replicate (qs.count p) d := by
  induction qs with
  | nil => rfl
  | cons q qs ih =>
    by_cases h : q = p
    · subst h
      simp [hp, ih, List.replicate_succ]
    · simp [hq q h, ih, h]

theorem after_perm
    (hu : ∀ (q : Pass) k e, q.findingAt ns k = some e →
      ∀ r, r ≠ q → r.findingAt ns k = none)
    {qs qs' : List Pass} (h : qs.Perm qs') : after qs ns = after qs' ns := by
  apply List.ext_getElem?
  intro k
  rw [getElem?_after, getElem?_after]
  -- either one check finds something on the statement, attached once per run, or none does
  by_cases hk : ∃ (p : Pass) (d : Diagnostic), p.findingAt ns k = some d
  · obtain ⟨p, d, hp⟩ := hk
    rw [addedAt_eq_replicate hp (hu p k d hp), addedAt_eq_replicate hp (hu p k d hp), h.count_eq]
  · simp only [not_exists] at hk
    have hnone : ∀ q : Pass, q.findingAt ns k = none :=
      fun q => Option.eq_none_iff_forall_ne_some.2 (hk q)
    simp [addedAt, hnone]

end Unique

/-- The statements a check looks at: for the label check, a branch, load or store whose target is
a label; for the literal check, a statement with a number literal; for the duplicate check, a
label statement. -/
def Watches : Pass → Node → Prop
  | labels, n => ∃ x, n.target? = some (.label x)
  | ranges, n => ∃ lit, n.literal? = some lit
  | duplicates, n => n.kind = .label

end Pass

namespace Node

variable {n : Node}

theorem takesTarget_of_target? {x : Target} (h : n.target? = some x) :
    n.kind.takesTarget = true := by
  by_contra hk
  simp [target?, hk] at h

theorem target?_of_undefinedReference? {labels : List String} {d : Diagnostic}
    (h : n.undefinedReference? labels = some d) : ∃ x, n.target? = some (.label x) := by
  unfold undefinedReference? at h
  split at h
  · exact ⟨_, ‹_›⟩
  · simp at h

theorem literal?_of_literalProblem? {d : Diagnostic} (h : n.literalProblem? = .ok (some d)) :
    ∃ lit, n.literal? = some lit := by
  unfold literalProblem? at h
  split at h
  · exact ⟨_, ‹_›⟩
  · simp at h

theorem kind_of_name? {x : String} (h : n.name? = some x) : n.kind = .label := by
  unfold name? at h
  split at h
  · assumption
  · simp at h

theorem kind_of_redeclaration? {earlier : List (String × Location)} {d : Diagnostic}
    (h : n.redeclaration? earlier = some d) : n.kind = .label := by
  unfold redeclaration? at h
  cases hx : n.name? with
  | none => simp [hx] at h
  | some x => exact kind_of_name? hx

theorem literalArg?_eq_some {t : Token} (h : n.literalArg? = some t) :
    (∃ lit, t.lexeme = .number lit) ∧
    ((n.form = some .immediate ∧ n.args[2]? = some t) ∨
      ((n.kind = .instruction .trap ∨ n.kind = .directive .orig ∨ n.kind = .directive .fill ∨
        n.kind = .directive .blkw) ∧ n.args[0]? = some t) ∨
      (n.kind.takesTarget = true ∧ n.args.getLast? = some t)) := by
  unfold literalArg? at h
  obtain ⟨harg, hnum⟩ := Option.filter_eq_some_iff.1 h
  refine ⟨?_, ?_⟩
  · split at hnum
    · exact ⟨_, ‹_›⟩
    · simp at hnum
  · split at harg
    · exact .inl ⟨‹_›, harg⟩
    · split at harg
      all_goals first
        | exact .inr (.inl ⟨by simp_all, harg⟩)
        | split at harg
          · exact .inr (.inr ⟨‹_›, harg⟩)
          · simp at harg

end Node

theorem NodeKind.isError_of_takesTarget {k : NodeKind} (h : k.takesTarget = true) :
    k.isError = false := by
  cases k <;> simp_all [NodeKind.takesTarget, NodeKind.isError]

theorem redeclarations_getElem? {earlier : List (String × Location)} {ns : List Node} {k : Nat}
    {d : Diagnostic} (h : ((redeclarations earlier ns)[k]?).join = some d) :
    ∃ n earlier', ns[k]? = some n ∧ n.redeclaration? earlier' = some d := by
  induction ns generalizing earlier k with
  | nil => simp [redeclarations] at h
  | cons n rest ih =>
    cases k with
    | zero => exact ⟨n, earlier, rfl, by simpa [redeclarations] using h⟩
    | succ k =>
      simp only [redeclarations, List.getElem?_cons_succ] at h
      simpa using ih h

theorem Pass.findingAt_watches {p : Pass} {ns : List Node} {k : Nat} {d : Diagnostic}
    (h : p.findingAt ns k = some d) : ∃ n, ns[k]? = some n ∧ p.Watches n := by
  cases p with
  | labels =>
    cases hn : ns[k]? with
    | none => simp [findingAt, found, hn] at h
    | some n =>
      simp only [findingAt, found, List.getElem?_map, hn, Option.map_some, Option.join_some] at h
      exact ⟨n, rfl, Node.target?_of_undefinedReference? h⟩
  | ranges =>
    cases hn : ns[k]? with
    | none => simp [findingAt, found, hn] at h
    | some n =>
      simp only [findingAt, found, List.getElem?_map, hn, Option.map_some, Option.join_some] at h
      have hok : n.literalProblem? = .ok (some d) := by
        cases hp : n.literalProblem? <;> simp_all [Except.toOption]
      exact ⟨n, rfl, Node.literal?_of_literalProblem? hok⟩
  | duplicates =>
    obtain ⟨n, earlier, hn, hd⟩ := redeclarations_getElem? h
    exact ⟨n, hn, Node.kind_of_redeclaration? hd⟩

namespace Node.Shaped

variable {n : Node}

theorem kind_of_literalArg? (hs : n.Shaped) {t : Token} (h : n.literalArg? = some t) :
    n.kind.isError = false ∧ n.kind ≠ .label ∧
      (n.kind.takesTarget = true → n.args.getLast? = some t) := by
  rcases (literalArg?_eq_some h).2 with ⟨hf, -⟩ | ⟨hk, -⟩ | ⟨hk, hlast⟩
  · -- only ADD and AND have an immediate form
    rcases hs.form_some (by simp [hf]) with hk | hk <;>
      simp [hk, NodeKind.isError, NodeKind.takesTarget]
  · rcases hk with hk | hk | hk | hk <;> simp [hk, NodeKind.isError, NodeKind.takesTarget]
  · refine ⟨NodeKind.isError_of_takesTarget hk, fun hl => ?_, fun _ => hlast⟩
    simp [hl, NodeKind.takesTarget] at hk

theorem literal?_of_label_target (hs : n.Shaped) {x : String} (hx : n.target? = some (.label x)) :
    n.literal? = none := by
  have hk := takesTarget_of_target? hx
  obtain ⟨a, hlast, ha⟩ := hs.target hk
  have hlabel : a.lexeme = .label x := by
    rcases ha with ⟨y, hy, ht⟩ | ⟨lit, -, ht⟩
    · rw [hx] at ht
      cases ht
      exact hy
    · rw [hx] at ht
      cases ht
  cases hl : n.literalArg? with
  | none => simp [literal?, hl]
  | some t =>
    obtain ⟨⟨lit, hnum⟩, -⟩ := literalArg?_eq_some hl
    have ht := (hs.kind_of_literalArg? hl).2.2 hk
    rw [hlast] at ht
    cases ht
    rw [hlabel] at hnum
    cases hnum

theorem literal?_of_label (hs : n.Shaped) (hk : n.kind = .label) : n.literal? = none := by
  cases hl : n.literalArg? with
  | none => simp [literal?, hl]
  | some t => exact absurd hk (hs.kind_of_literalArg? hl).2.1

theorem watches_unique (hs : n.Shaped) {p q : Pass} (hp : p.Watches n) (hq : q.Watches n) :
    p = q := by
  have lr : Pass.Watches .labels n → ¬ Pass.Watches .ranges n :=
    fun ⟨_, hx⟩ ⟨_, hlit⟩ => by simp [hs.literal?_of_label_target hx] at hlit
  have ld : Pass.Watches .labels n → ¬ Pass.Watches .duplicates n :=
    fun ⟨_, hx⟩ (hk : n.kind = .label) => by
      simpa [hk, NodeKind.takesTarget] using takesTarget_of_target? hx
  have rd : Pass.Watches .ranges n → ¬ Pass.Watches .duplicates n := fun ⟨_, hlit⟩ hk => by
    simp [hs.literal?_of_label hk] at hlit
  cases p <;> cases q
  case labels.labels | ranges.ranges | duplicates.duplicates => rfl
  case labels.ranges => exact absurd hq (lr hp)
  case ranges.labels => exact absurd hp (lr hq)
  case labels.duplicates => exact absurd hq (ld hp)
  case duplicates.labels => exact absurd hp (ld hq)
  case ranges.duplicates => exact absurd hq (rd hp)
  case duplicates.ranges => exact absurd hp (rd hq)

theorem not_error_of_watches (hs : n.Shaped) {p : Pass} (hw : p.Watches n) :
    n.kind.isError = false := by
  cases p with
  | labels =>
    obtain ⟨_, hx⟩ := hw
    exact NodeKind.isError_of_takesTarget (takesTarget_of_target? hx)
  | ranges =>
    obtain ⟨_, hlit⟩ := hw
    obtain ⟨t, ht, -⟩ := Option.bind_eq_some_iff.1 hlit
    exact (hs.kind_of_literalArg? ht).1
  | duplicates =>
    have hk : n.kind = .label := hw
    simp [hk, NodeKind.isError]

end Node.Shaped

theorem ofLeading_diagnostics_of_not_error (t : Token) (i : Nat) (args : List Token)
    (h : (Node.ofLeading t i args).kind.isError = false) :
    (Node.ofLeading t i args).diagnostics = [] := by
  cases hl : t.lexeme with
  | opcode m =>
    cases hm : m.opcode.signature.mismatch? args <;> simp_all [Node.ofLeading, NodeKind.isError]
  | directive d =>
    cases d with
    | known d =>
      cases hm : d.signature.mismatch? args <;> simp_all [Node.ofLeading, NodeKind.isError]
    | unknown name => simp_all [Node.ofLeading, NodeKind.isError]
  | _ => simp_all [Node.ofLeading, NodeKind.isError]

theorem shaped_clean_of_mem_ofTokens {ts : List Token} {n : Node} (hn : n ∈ Node.ofTokens ts) :
    n.Shaped ∧ (n.kind.isError = false → n.diagnostics = []) := by
  obtain ⟨t, i, args, rfl⟩ := exists_ofLeading_of_mem_nodesFrom hn
  exact ⟨ofLeading_shaped t i args, ofLeading_diagnostics_of_not_error t i args⟩

theorem findingAt_parsed {ts : List Token} {p : Pass} {k : Nat} {d : Diagnostic}
    (h : p.findingAt (Node.ofTokens ts) k = some d) :
    (∀ q, q ≠ p → q.findingAt (Node.ofTokens ts) k = none) ∧
    ∃ n, (Node.ofTokens ts)[k]? = some n ∧ p.Watches n ∧ n.kind.isError = false ∧
      n.diagnostics = [] := by
  obtain ⟨n, hn, hw⟩ := Pass.findingAt_watches h
  obtain ⟨hs, hclean⟩ := shaped_clean_of_mem_ofTokens (List.mem_of_getElem? hn)
  have herr := hs.not_error_of_watches hw
  refine ⟨fun q hq => ?_, n, hn, hw, herr, hclean herr⟩
  cases hqk : q.findingAt (Node.ofTokens ts) k with
  | none => rfl
  | some e =>
    -- a second check finding something there would look at the same statement
    obtain ⟨m, hm, hqw⟩ := Pass.findingAt_watches hqk
    rw [hn] at hm
    cases hm
    exact absurd (hs.watches_unique hqw hw) hq

/-- The checks do not interfere on the statements of a parse. Any sequence of checks aborts at the
first that aborts alone; otherwise each step counts what its check counts alone and attaches what
each check finds on the fresh statements, once per run, to statements that one check alone watches. -/
theorem steps_noninterfering (ts : List Token) (ps : List Pass) :
    let ns := Node.ofTokens ts
    (Pass.steps ps ns = match ps.findSome? (·.abort? ns) with
      | some e => .error e
      | none => .ok (ps.mapIdx fun i p => (p, p.count ns, Pass.after (ps.take (i + 1)) ns))) ∧
    (∀ p : Pass, p.run ns = match p.abort? ns with
      | some e => .error e
      | none => .ok (Pass.after [p] ns, p.count ns)) ∧
    (∀ (p : Pass) k d, p.findingAt ns k = some d →
      (∀ q, q ≠ p → q.findingAt ns k = none) ∧
      ∃ n, ns[k]? = some n ∧ p.Watches n ∧ n.kind.isError = false ∧ n.diagnostics = []) ∧
    (∀ qs (p : Pass) k d, p.findingAt ns k = some d →
      Pass.addedAt qs ns k = List.replicate (qs.count p) d) ∧
    (∀ qs qs' : List Pass, qs.Perm qs' → Pass.after qs ns = Pass.after qs' ns) := by
  intro ns
  have hsteps := Pass.steps_after ps [] ns
  simp only [Pass.after_nil, List.nil_append] at hsteps
  refine ⟨hsteps, fun p => ?_, fun p k d h => findingAt_parsed h, ?_, ?_⟩
  · simpa using Pass.run_after p [] ns
  · intro qs p k d h
    exact Pass.addedAt_eq_replicate h (findingAt_parsed h).1 qs
  · intro qs qs' h
    exact Pass.after_perm (fun q k e hq => (findingAt_parsed hq).1) h

end Lc3Lint
