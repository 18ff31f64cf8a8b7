import Mathlib
import Lc3Lint.Proofs.TokenSpans
import Lc3Lint.Proofs.Analysis
/-! Diagnostics come out in statement order: each statement carries at most one, inside its own span,
and statements follow one another, so sorting by start changes nothing. -/
namespace Lc3Lint

namespace Location

variable {a b c : Location}

theorem atOrBefore_iff (a b : Location) :
    a.atOrBefore b = true ↔ a.line < b.line ∨ a.line = b.line ∧ a.column ≤ b.column := by
  rw [atOrBefore, Bool.not_eq_true', ← Bool.not_eq_true, before_iff]
  omega

theorem atOrBefore_refl (a : Location) : a.atOrBefore a := by
  rw [atOrBefore_iff]
  omega

theorem atOrBefore_of_before (h : a.before b) : a.atOrBefore b := by
  rw [before_iff] at h
  rw [atOrBefore_iff]
  omega

theorem atOrBefore_trans (hab : a.atOrBefore b) (hbc : b.atOrBefore c) : a.atOrBefore c := by
  rw [atOrBefore_iff] at *
  omega

theorem before_of_before_of_atOrBefore (hab : a.before b) (hbc : b.atOrBefore c) : a.before c := by
  rw [before_iff] at *
  rw [atOrBefore_iff] at hbc
  omega

theorem before_of_atOrBefore_of_before (hab : a.atOrBefore b) (hbc : b.before c) : a.before c := by
  rw [before_iff] at *
  rw [atOrBefore_iff] at hab
  omega

theorem atOrBefore_total (a b : Location) : (a.atOrBefore b || b.atOrBefore a) = true := by
  rw [Bool.or_eq_true, atOrBefore_iff, atOrBefore_iff]
  omega

end Location

theorem pairwise_of_isChain {α : Type} {start last : α → Location} {l : List α}
    (hs : ∀ a ∈ l, (start a).atOrBefore (last a))
    (hc : l.IsChain fun a b => (last a).before (start b)) :
    l.Pairwise fun a b => (last a).before (start b) := by
  induction l with
  | nil => exact .nil
  | cons a l ih =>
    have hl := ih (fun b hb => hs b (List.mem_cons_of_mem a hb)) hc.tail
    refine List.Pairwise.cons (fun c hc' => ?_) hl
    cases l with
    | nil => cases hc'
    | cons b l =>
      have hab := (List.isChain_cons_cons.1 hc).1
      rcases List.mem_cons.1 hc' with rfl | hc'
      · exact hab
      · -- `a` ends before `b` starts, and `b` ends before `c` starts
        have hb := hs b (List.mem_cons_of_mem a List.mem_cons_self)
        exact Location.before_trans (Location.before_of_before_of_atOrBefore hab hb)
          ((List.pairwise_cons.1 hl).1 c hc')

/-- The tokens `ts` follow one another through the text: each spans forward from its first
character to its last, and ends before every later token starts. -/
structure Token.InOrder (ts : List Token) : Prop where
  spans : ∀ t ∈ ts, t.start.atOrBefore t.last
  apart : ts.Pairwise fun t u => t.last.before u.start

theorem TokenAt.start_atOrBefore_last {file : String} {s : List Char} {t : Token} {p : Nat}
    (h : TokenAt file s t p) : t.start.atOrBefore t.last := by
  obtain ⟨hpos, hle⟩ := h.run_bounds
  rw [h.start_eq, h.last_eq]
  rcases Nat.lt_or_ge 1 t.text.length with hlen | hlen
  · exact Location.atOrBefore_of_before (offsetLocation_before (by omega) (by omega))
  · rw [show p + t.text.length - 1 = p by omega]
    exact Location.atOrBefore_refl _

theorem forall₂_getElem? {α β : Type} {R : α → β → Prop} :
    ∀ {l : List α} {l' : List β}, List.Forall₂ R l l' →
      ∀ {i : Nat} {a : α}, l[i]? = some a → ∃ b, l'[i]? = some b ∧ R a b
  | _, _, .nil, _, _, h => by simp at h
  | _, _, .cons hab _, 0, _, h => by
    simp only [List.getElem?_cons_zero, Option.some.injEq] at h
    exact ⟨_, rfl, h ▸ hab⟩
  | _, _, .cons _ hs, i + 1, _, h => by
    simp only [List.getElem?_cons_succ] at h ⊢
    exact forall₂_getElem? hs h

theorem scan_inOrder (source file : String) : Token.InOrder (Token.scan source file) := by
  obtain ⟨offs, h⟩ := scan_tiles source file
  have hs : ∀ t ∈ Token.scan source file, t.start.atOrBefore t.last := fun t ht => by
    obtain ⟨k, hk⟩ := List.mem_iff_getElem?.1 ht
    obtain ⟨p, -, hp⟩ := forall₂_getElem? h.at_offsets hk
    exact hp.start_atOrBefore_last
  exact ⟨hs, pairwise_of_isChain hs h.ordered⟩

namespace Token.InOrder

variable {ts : List Token} (h : Token.InOrder ts) {i j : Nat} {t u : Token}
include h

theorem last_before_start (hi : ts[i]? = some t) (hj : ts[j]? = some u) (hij : i < j) :
    t.last.before u.start := by
  obtain ⟨hi', rfl⟩ := List.getElem?_eq_some_iff.1 hi
  obtain ⟨hj', rfl⟩ := List.getElem?_eq_some_iff.1 hj
  exact List.pairwise_iff_getElem.1 h.apart i j hi' hj' hij

theorem start_before_start (hi : ts[i]? = some t) (hj : ts[j]? = some u) (hij : i < j) :
    t.start.before u.start :=
  Location.before_of_atOrBefore_of_before (h.spans t (List.mem_of_getElem? hi))
    (h.last_before_start hi hj hij)

theorem start_atOrBefore_start (hi : ts[i]? = some t) (hj : ts[j]? = some u) (hij : i ≤ j) :
    t.start.atOrBefore u.start := by
  rcases Nat.eq_or_lt_of_le hij with rfl | hij
  · rw [hi, Option.some.injEq] at hj
    exact hj ▸ Location.atOrBefore_refl _
  · exact Location.atOrBefore_of_before (h.start_before_start hi hj hij)

theorem last_atOrBefore_last (hi : ts[i]? = some t) (hj : ts[j]? = some u) (hij : i ≤ j) :
    t.last.atOrBefore u.last := by
  rcases Nat.eq_or_lt_of_le hij with rfl | hij
  · rw [hi, Option.some.injEq] at hj
    exact hj ▸ Location.atOrBefore_refl _
  · exact Location.atOrBefore_of_before (Location.before_of_before_of_atOrBefore
      (h.last_before_start hi hj hij) (h.spans u (List.mem_of_getElem? hj)))

end Token.InOrder

structure Covers (ts : List Token) (start last : Location) (i j : Nat) : Prop where
  le : i ≤ j
  first : ∃ t, ts[i]? = some t ∧ t.start = start
  final : ∃ u, ts[j]? = some u ∧ u.last = last

namespace Covers

variable {ts : List Token} (ho : Token.InOrder ts) {s l s' l' : Location} {i j i' j' : Nat}
include ho

theorem start_atOrBefore_last (h : Covers ts s l i j) : s.atOrBefore l := by
  obtain ⟨t, ht, rfl⟩ := h.first
  obtain ⟨u, hu, rfl⟩ := h.final
  exact Location.atOrBefore_trans (ho.spans t (List.mem_of_getElem? ht))
    (ho.last_atOrBefore_last ht hu h.le)

theorem within (h : Covers ts s l i j) (h' : Covers ts s' l' i' j') (hi : i ≤ i') (hj : j' ≤ j) :
    s.atOrBefore s' ∧ l'.atOrBefore l := by
  obtain ⟨t, ht, rfl⟩ := h.first
  obtain ⟨u, hu, rfl⟩ := h.final
  obtain ⟨t', ht', rfl⟩ := h'.first
  obtain ⟨u', hu', rfl⟩ := h'.final
  exact ⟨ho.start_atOrBefore_start ht ht' hi, ho.last_atOrBefore_last hu' hu hj⟩

theorem last_before (h : Covers ts s l i j) (h' : Covers ts s' l' i' j') (hj : j < i') :
    l.before s' := by
  obtain ⟨u, hu, rfl⟩ := h.final
  obtain ⟨t', ht', rfl⟩ := h'.first
  exact ho.last_before_start hu ht' hj

theorem start_before (h : Covers ts s l i j) (h' : Covers ts s' l' i' j') (hi : i < i') :
    s.before s' := by
  obtain ⟨t, ht, rfl⟩ := h.first
  obtain ⟨t', ht', rfl⟩ := h'.first
  exact ho.start_before_start ht ht' hi

end Covers

structure Node.Spans (n : Node) : Prop where
  start_eq : n.start = n.token.start
  last_eq : n.last = (n.args.getLast?.map (·.last)).getD n.token.last

namespace Node

theorem ofLeading_spans (t : Token) (i : Nat) (args : List Token) : (ofLeading t i args).Spans := by
  refine ⟨by simp, ?_⟩
  rw [ofLeading_token, ofLeading_args]
  cases h : t.lexeme with
  | opcode m =>
    cases hm : m.opcode.signature.mismatch? args <;> simp [ofLeading, Token.takesOperands, h, hm]
  | directive d =>
    cases d with
    | unknown name => simp [ofLeading, Token.takesOperands, h]
    | known d =>
      cases hd : d.signature.mismatch? args <;> simp [ofLeading, Token.takesOperands, h, hd]
  | _ => simp [ofLeading, Token.takesOperands, h]

theorem spans_of_mem_ofTokens {ts : List Token} {n : Node} (hn : n ∈ Node.ofTokens ts) : n.Spans := by
  obtain ⟨t, i, args, rfl⟩ := exists_ofLeading_of_mem_nodesFrom hn
  exact ofLeading_spans t i args

theorem one_le_width (n : Node) : 1 ≤ n.width := by
  unfold width
  split
  · exact le_refl 1
  · rename_i hne
    have := List.length_pos_iff.2 hne
    omega

variable {ts : List Token} {n : Node}

theorem ReadsFrom.covers (hr : n.ReadsFrom ts) (hs : n.Spans) :
    Covers ts n.start n.last n.index (n.index + n.width - 1) := by
  refine ⟨by have := n.one_le_width; omega, ⟨n.token, hr.token_eq, hs.start_eq.symm⟩, ?_⟩
  cases hl : n.args.getLast? with
  | none =>
    have hnil : n.args = [] := List.getLast?_eq_none_iff.1 hl
    refine ⟨n.token, by simpa [width, hnil] using hr.token_eq, ?_⟩
    rw [hs.last_eq, hl]
    rfl
  | some a =>
    -- the last operand is the `m`-th, `2 * m + 1` places after the leading token
    have hne : n.args ≠ [] := List.ne_nil_of_mem (List.mem_of_getLast? hl)
    obtain ⟨m, hm⟩ : ∃ m, n.args.length = m + 1 :=
      ⟨_, (Nat.succ_pred_eq_of_pos (List.length_pos_iff.2 hne)).symm⟩
    have ha : n.args[m]? = some a := by
      rw [List.getLast?_eq_getElem?, hm] at hl
      simpa using hl
    refine ⟨a, ?_, by rw [hs.last_eq, hl]; rfl⟩
    rw [show n.index + n.width - 1 = n.index + 2 * m + 1 by simp only [width, hne, if_false]; omega]
    exact hr.arg_eq m a ha

theorem ReadsFrom.covers_arg (hr : n.ReadsFrom ts) {a : Token} (ha : a ∈ n.args) :
    ∃ q, n.index ≤ q ∧ q ≤ n.index + n.width - 1 ∧ Covers ts a.start a.last q q := by
  obtain ⟨j, hj⟩ := List.mem_iff_getElem?.1 ha
  have hjl : j < n.args.length := (List.getElem?_eq_some_iff.1 hj).1
  have hne : n.args ≠ [] := List.ne_nil_of_mem ha
  refine ⟨n.index + 2 * j + 1, by omega, by simp only [width, hne, if_false]; omega,
    le_refl _, ⟨a, hr.arg_eq j a hj, rfl⟩, ⟨a, hr.arg_eq j a hj, rfl⟩⟩

end Node

/-- The diagnostic `d` marks the statement `n` whole, or one of its operands. -/
def Diagnostic.Marks (d : Diagnostic) (n : Node) : Prop :=
  (d.start = n.start ∧ d.last = n.last) ∨ ∃ a ∈ n.args, d.start = a.start ∧ d.last = a.last

theorem Diagnostic.Marks.covers {ts : List Token} {d : Diagnostic} {n : Node} (hm : d.Marks n)
    (hr : n.ReadsFrom ts) (hs : n.Spans) :
    ∃ i j, n.index ≤ i ∧ j ≤ n.index + n.width - 1 ∧ Covers ts d.start d.last i j := by
  rcases hm with ⟨hstart, hlast⟩ | ⟨a, ha, hstart, hlast⟩
  · refine ⟨n.index, n.index + n.width - 1, le_refl _, le_refl _, ?_⟩
    rw [hstart, hlast]
    exact hr.covers hs
  · obtain ⟨q, hlo, hhi, hq⟩ := hr.covers_arg ha
    refine ⟨q, q, hlo, hhi, ?_⟩
    rw [hstart, hlast]
    exact hq

namespace Node

variable {n : Node} {d : Diagnostic}

theorem undefinedReference?_marks {labels : List String} (h : n.undefinedReference? labels = some d) :
    d.Marks n := by
  unfold undefinedReference? at h
  split at h
  · rename_i _ t _ ht
    split at h
    · cases h
    · cases h
      exact .inr ⟨t, List.mem_of_getLast? ht, rfl, rfl⟩
  · cases h

theorem literalProblem?_marks (h : n.literalProblem? = .ok (some d)) : d.Marks n := by
  rw [literalProblem?_unfold] at h
  split at h
  · rename_i t lit ht hlit
    -- every diagnostic of the literal check is put on the literal's token
    have hmark : ∀ e : Diagnostic, e.start = t.start → e.last = t.last → e.Marks n :=
      fun e hs hl => .inr ⟨t, mem_args_of_literalArg? ht, hs, hl⟩
    split at h
    · cases h
      exact hmark _ rfl rfl
    · split at h
      · cases h
      · split at h
        · cases h
        · split at h
          · cases h
          · cases h
            exact hmark _ rfl rfl
  · cases h

theorem redeclaration?_marks {earlier : List (String × Location)}
    (h : n.redeclaration? earlier = some d) : d.Marks n := by
  unfold redeclaration? at h
  split at h
  · split at h
    · cases h
      exact .inl ⟨rfl, rfl⟩
    · cases h
  · cases h

end Node

theorem Pass.findingAt_marks {p : Pass} {ns : List Node} {k : Nat} {d : Diagnostic}
    (h : p.findingAt ns k = some d) : ∃ n, ns[k]? = some n ∧ d.Marks n := by
  cases p with
  | labels =>
    cases hn : ns[k]? with
    | none => simp [findingAt, found, hn] at h
    | some n =>
      simp only [findingAt, found, List.getElem?_map, hn, Option.map_some, Option.join_some] at h
      exact ⟨n, rfl, Node.undefinedReference?_marks h⟩
  | ranges =>
    cases hn : ns[k]? with
    | none => simp [findingAt, found, hn] at h
    | some n =>
      simp only [findingAt, found, List.getElem?_map, hn, Option.map_some, Option.join_some] at h
      have hok : n.literalProblem? = .ok (some d) := by
        cases hp : n.literalProblem? <;> simp_all [Except.toOption]
      exact ⟨n, rfl, Node.literalProblem?_marks hok⟩
  | duplicates =>
    obtain ⟨n, earlier, hn, hd⟩ := redeclarations_getElem? h
    exact ⟨n, hn, Node.redeclaration?_marks hd⟩

theorem parsed_diagnostics_marks {ts : List Token} {n : Node} (hn : n ∈ Node.ofTokens ts) :
    n.diagnostics.length ≤ 1 ∧ ∀ d ∈ n.diagnostics, d.Marks n := by
  obtain ⟨hs, hclean⟩ := shaped_clean_of_mem_ofTokens hn
  cases he : n.kind.isError with
  | false => simp [hclean he]
  | true =>
    obtain ⟨message, hint, hd, -⟩ := hs.failed he
    rw [hd]
    refine ⟨by simp, fun d hd' => .inl ?_⟩
    rw [List.mem_singleton] at hd'
    subst hd'
    exact ⟨rfl, rfl⟩

theorem Partition.index_add_width_le {ts : List Token} {i : Nat} {ns : List Node}
    (h : Partition ts i ns) {k k' : Nat} (hkk : k < k') (hk' : k' < ns.length) :
    ns[k].index + ns[k].width ≤ ns[k'].index := by
  rw [h.indices k (by omega), h.indices k' hk', List.map_take, List.map_take]
  have hsucc := List.sum_take_succ (ns.map Node.width) k (by simp only [List.length_map]; omega)
  have hmono := List.monotone_sum_take (ns.map Node.width) (show k + 1 ≤ k' by omega)
  simp only [List.getElem_map] at hsucc hmono
  omega

/-- The statement `n`, read from `ts`, spans its run of tokens and carries at most one
diagnostic, which spans a run inside its own. -/
structure Node.Placed (ts : List Token) (n : Node) : Prop where
  covers : Covers ts n.start n.last n.index (n.index + n.width - 1)
  at_most_one : n.diagnostics.length ≤ 1
  within : ∀ d ∈ n.diagnostics,
    ∃ i j, n.index ≤ i ∧ j ≤ n.index + n.width - 1 ∧ Covers ts d.start d.last i j

theorem index_add_width_le_after {k k' : Nat} (hkk : k < k')
    (hk' : k' < (Pass.after qs (Node.ofTokens ts)).length) :
    (Pass.after qs (Node.ofTokens ts))[k].index + (Pass.after qs (Node.ofTokens ts))[k].width ≤
      (Pass.after qs (Node.ofTokens ts))[k'].index := by
  have hlen : (Pass.after qs (Node.ofTokens ts)).length = (Node.ofTokens ts).length := by
    simp [Pass.after]
  have h := (partition_ofTokens ts).index_add_width_le hkk (hlen ▸ hk')
  simpa [Pass.after, Node.extend, Node.width] using h

section After

variable {ts : List Token} {qs : List Pass} (hq : ∀ p, qs.count p ≤ 1)
include hq

theorem marks_after {k : Nat} {n : Node} (hn : (Pass.after qs (Node.ofTokens ts))[k]? = some n) :
    ∃ m, (Node.ofTokens ts)[k]? = some m ∧ n = m.extend (Pass.addedAt qs (Node.ofTokens ts) k) ∧
      n.diagnostics.length ≤ 1 ∧ ∀ d ∈ n.diagnostics, d.Marks m := by
  rw [Pass.getElem?_after] at hn
  obtain ⟨m, hm, rfl⟩ := Option.map_eq_some_iff.1 hn
  refine ⟨m, hm, rfl, ?_⟩
  by_cases hk : ∃ (p : Pass) (d : Diagnostic), p.findingAt (Node.ofTokens ts) k = some d
  · -- one check finds something: the statement had no diagnostic and gets at most one copy
    obtain ⟨p, d, hp⟩ := hk
    obtain ⟨hu, m', hm', -, -, hclean⟩ := findingAt_parsed hp
    obtain ⟨m'', hm'', hd⟩ := Pass.findingAt_marks hp
    rw [hm, Option.some.injEq] at hm' hm''
    subst hm' hm''
    simp only [Node.extend, hclean, Pass.addedAt_eq_replicate hp hu, List.nil_append,
      List.length_replicate]
    exact ⟨hq p, fun e he => List.eq_of_mem_replicate he ▸ hd⟩
  · simp only [not_exists] at hk
    have hnone : ∀ q : Pass, q.findingAt (Node.ofTokens ts) k = none :=
      fun q => Option.eq_none_iff_forall_ne_some.2 (hk q)
    simpa [Node.extend, Pass.addedAt, hnone] using parsed_diagnostics_marks (List.mem_of_getElem? hm)

theorem placed_after {k : Nat} {n : Node} (hn : (Pass.after qs (Node.ofTokens ts))[k]? = some n) :
    n.Placed ts := by
  obtain ⟨m, hm, rfl, hone, hmarks⟩ := marks_after hq hn
  have hmem := List.mem_of_getElem? hm
  have hr := (partition_ofTokens ts).reads m hmem
  have hs := Node.spans_of_mem_ofTokens hmem
  exact ⟨hr.covers hs, hone, fun d hd => (hmarks d hd).covers hr hs⟩

end After

namespace Node.Placed

variable {ts : List Token} (ho : Token.InOrder ts) {n m : Node}
include ho

theorem start_atOrBefore_last (h : n.Placed ts) : n.start.atOrBefore n.last :=
  Covers.start_atOrBefore_last ho h.covers

theorem diagnostic_within (h : n.Placed ts) {d : Diagnostic} (hd : d ∈ n.diagnostics) :
    n.start.atOrBefore d.start ∧ d.last.atOrBefore n.last := by
  obtain ⟨i, j, hi, hj, hc⟩ := h.within d hd
  exact Covers.within ho h.covers hc hi hj

theorem last_before_start (h : n.Placed ts) (h' : m.Placed ts) (hnm : n.index + n.width ≤ m.index) :
    n.last.before m.start :=
  Covers.last_before ho h.covers h'.covers (by have := n.one_le_width; omega)

theorem diagnostic_before (h : n.Placed ts) (h' : m.Placed ts) (hnm : n.index + n.width ≤ m.index)
    {d e : Diagnostic} (hd : d ∈ n.diagnostics) (he : e ∈ m.diagnostics) : d.start.before e.start := by
  obtain ⟨i, j, hi, hj, hc⟩ := h.within d hd
  obtain ⟨i', j', hi', -, hc'⟩ := h'.within e he
  have := hc.le
  have := n.one_le_width
  exact Covers.start_before ho hc hc' (by omega)

end Node.Placed

theorem pairwise_after {ts : List Token} {qs : List Pass} (hq : ∀ p, qs.count p ≤ 1)
    {R : Node → Node → Prop}
    (hR : ∀ n m, n.Placed ts → m.Placed ts → n.index + n.width ≤ m.index → R n m) :
    (Pass.after qs (Node.ofTokens ts)).Pairwise R := by
  rw [List.pairwise_iff_getElem]
  intro k k' hk hk' hkk
  exact hR _ _ (placed_after hq (List.getElem?_eq_getElem hk))
    (placed_after hq (List.getElem?_eq_getElem hk')) (index_add_width_le_after hkk hk')

theorem pairwise_of_length_le_one {α : Type} {R : α → α → Prop} :
    ∀ {l : List α}, l.length ≤ 1 → l.Pairwise R
  | [], _ => .nil
  | [_], _ => List.pairwise_singleton R _
  | _ :: _ :: _, h => by simp at h

theorem eq_of_pairwise_before {l : List Diagnostic} (h : l.Pairwise fun d e => d.start.before e.start)
    {d e : Diagnostic} (hd : d ∈ l) (he : e ∈ l) (hde : d.start.before e.start = false)
    (hed : e.start.before d.start = false) : d = e := by
  induction l with
  | nil => cases hd
  | cons x l ih =>
    obtain ⟨hx, hl⟩ := List.pairwise_cons.1 h
    rcases List.mem_cons.1 hd with rfl | hd' <;> rcases List.mem_cons.1 he with rfl | he'
    · rfl
    · simp [hx e he'] at hde
    · simp [hx d hd'] at hed
    · exact ih hl hd' he'

theorem mergeSort_eq_of_pairwise_before {l l' : List Diagnostic}
    (h : l.Pairwise fun d e => d.start.before e.start) (hp : l'.Perm l) :
    l'.mergeSort (fun a b => a.start.atOrBefore b.start) = l := by
  have hperm := (List.mergeSort_perm l' fun a b => a.start.atOrBefore b.start).trans hp
  refine @List.Perm.eq_of_pairwise _ (fun a b => a.start.atOrBefore b.start = true) _ _
    (fun a b ha hb hab hba => ?_) ?_ (h.imp Location.atOrBefore_of_before) hperm
  · simp only [Location.atOrBefore, Bool.not_eq_true'] at hab hba
    exact eq_of_pairwise_before h (hperm.subset ha) hb hba hab
  · exact @List.pairwise_mergeSort _ (fun a b => a.start.atOrBefore b.start)
      (fun _ _ _ hab hbc => Location.atOrBefore_trans hab hbc)
      (fun a b => Location.atOrBefore_total a.start b.start) l'

/-- Diagnostics come out in statement order. After an analysis that finishes, the diagnostics taken
statement by statement start strictly one after another, so sorting them by start, and the
collector's listing for the report, give them back in statement order. -/
theorem analyze_diagnostics_in_statement_order {s₀ s : Session} {source file : String}
    (h : s₀.analyze source file = .ok s) :
    (∀ n ∈ s.nodes, n.diagnostics.length ≤ 1 ∧ n.start.atOrBefore n.last ∧
      ∀ d ∈ n.diagnostics, n.start.atOrBefore d.start ∧ d.last.atOrBefore n.last) ∧
    s.nodes.Pairwise (fun n m => n.last.before m.start) ∧
    (s.nodes.flatMap (·.diagnostics)).Pairwise (fun d e => d.start.before e.start) ∧
    s.diagnostics = s.nodes.flatMap (·.diagnostics) ∧
    s.collector.ordered = s.nodes.flatMap (·.diagnostics) := by
  have ha := Session.analyze_analyzes h
  have ho : Token.InOrder s.tokens := ha.tokens_eq ▸ scan_inOrder source file
  have hq := s₀.config.count_passes_le
  have hplaced : ∀ n ∈ s.nodes, n.Placed s.tokens := fun n hn => by
    rw [ha.nodes_eq] at hn
    obtain ⟨k, hk⟩ := List.mem_iff_getElem?.1 hn
    exact placed_after hq hk
  -- statement by statement: at most one diagnostic each, and later statements start later
  have hdiags : (s.nodes.flatMap (·.diagnostics)).Pairwise fun d e => d.start.before e.start := by
    refine List.pairwise_flatMap.2 ⟨fun n hn => pairwise_of_length_le_one (hplaced n hn).at_most_one, ?_⟩
    rw [ha.nodes_eq]
    exact pairwise_after hq fun n m hn hm hnm d hd e he => hn.diagnostic_before ho hm hnm hd he
  refine ⟨fun n hn => ⟨(hplaced n hn).at_most_one, (hplaced n hn).start_atOrBefore_last ho,
    fun d hd => (hplaced n hn).diagnostic_within ho hd⟩, ?_, hdiags,
    mergeSort_eq_of_pairwise_before hdiags (List.Perm.refl _), ?_⟩
  · rw [ha.nodes_eq]
    exact pairwise_after hq fun n m hn hm hnm => hn.last_before_start ho hm hnm
  · -- the errors, then the warnings, are the diagnostics rearranged
    apply mergeSort_eq_of_pairwise_before hdiags
    rw [ha.collector_eq, Collector.errors_extend, Collector.warnings_extend]
    simpa [Config.collector] using List.filter_append_perm Diagnostic.isError _

theorem analyze_diagnostics_in_statement_order_sample :
    ∃ s, (Session.start {}).analyze "ADD R1, R1, #99\nBR NOPE\nA HALT\nA HALT" "f" = .ok s ∧
      (∀ n ∈ s.nodes, n.diagnostics.length ≤ 1 ∧ n.start.atOrBefore n.last ∧
        ∀ d ∈ n.diagnostics, n.start.atOrBefore d.start ∧ d.last.atOrBefore n.last) ∧
      s.nodes.Pairwise (fun n m => n.last.before m.start) ∧
      (s.nodes.flatMap (·.diagnostics)).Pairwise (fun d e => d.start.before e.start) ∧
      s.diagnostics = s.nodes.flatMap (·.diagnostics) ∧
      s.collector.ordered = s.nodes.flatMap (·.diagnostics) := by
  obtain ⟨s, hs⟩ := @Session.analyze_ok_of_length_le (Session.start {})
    "ADD R1, R1, #99\nBR NOPE\nA HALT\nA HALT" "f" (by decide)
  exact ⟨s, hs, analyze_diagnostics_in_statement_order hs⟩

end Lc3Lint
