import Mathlib
import Lc3Lint.Proofs.LabelResolution
/-! Labels declared twice, exactly: every redeclaration points back at the first label statement of
its name, and the count is the label statements less the distinct names. -/
namespace Lc3Lint

/-- The error the duplicate check owes `n` after the statements `before`: one over its span when it
is a label statement whose name one of them declares, with a hint at the first of them. -/
def Node.duplicateError? (before : List Node) (n : Node) : Option Diagnostic :=
  n.name?.bind fun x => (before.find? (·.name? == some x)).map fun first =>
    { severity := .error, message := s!"Duplicate label `{x}`", start := n.start, last := n.last,
      hint := some s!"first declared at {first.start.line}:{first.start.column}" }

theorem find?_fst_beq (l : List (String × Location)) (x : String) :
    l.find? (·.1 == x) = (l.lookup x).map ((x, ·)) := by
  induction l with
  | nil => rfl
  | cons p l ih =>
    obtain ⟨y, loc⟩ := p
    by_cases hxy : y = x
    · subst hxy
      simp
    · have hyx : (x == y) = false := by simpa using Ne.symm hxy
      simp [List.lookup_cons, hxy, hyx, ih]

theorem any_fst_beq (l : List (String × Location)) (x : String) :
    l.any (·.1 == x) = (l.lookup x).isSome := by
  induction l with
  | nil => rfl
  | cons p l ih =>
    obtain ⟨y, loc⟩ := p
    by_cases hxy : y = x
    · subst hxy
      simp
    · have hyx : (x == y) = false := by simpa using Ne.symm hxy
      simp [List.lookup_cons, hxy, hyx, ih]

theorem lookup_foldl_declareFirst (ns : List Node) (earlier : List (String × Location))
    (x : String) :
    (ns.foldl declareFirst earlier).lookup x =
      (earlier.lookup x).or ((ns.find? (·.name? == some x)).map (·.start)) := by
  induction ns generalizing earlier with
  | nil => simp
  | cons n ns ih =>
    rw [List.foldl_cons, ih, List.find?_cons]
    unfold declareFirst
    cases hn : n.name? with
    | none => simp
    | some y =>
      dsimp only
      rw [any_fst_beq]
      by_cases hxy : y = x
      · -- the statement declares `x`: it counts unless `earlier` records `x` already
        subst hxy
        cases hlook : earlier.lookup y with
        | some loc => simp [hlook]
        | none => simp [List.lookup_append, hlook]
      · -- another name: recording it changes nothing for `x`
        have hyx : (x == y) = false := by simpa using Ne.symm hxy
        have hbeq : (some y == some x) = false := by simpa using hxy
        rw [hbeq]
        split
        · rfl
        · simp only [List.lookup_append, List.lookup_cons, List.lookup_nil, hyx, Option.or_none]

theorem redeclaration?_foldl (before : List Node) (n : Node) :
    n.redeclaration? (before.foldl declareFirst []) = n.duplicateError? before := by
  unfold Node.redeclaration? Node.duplicateError?
  cases n.name? with
  | none => rfl
  | some x =>
    dsimp only
    rw [Option.bind_some, find?_fst_beq, lookup_foldl_declareFirst]
    cases before.find? (·.name? == some x) <;> rfl

theorem redeclarations_foldl (before rest : List Node) :
    redeclarations (before.foldl declareFirst []) rest =
      rest.mapIdx fun j n => n.duplicateError? (before ++ rest.take j) := by
  induction rest generalizing before with
  | nil => rfl
  | cons n rest ih =>
    rw [redeclarations, List.mapIdx_cons, redeclaration?_foldl,
      show declareFirst (before.foldl declareFirst []) n = (before ++ [n]).foldl declareFirst [] by
        simp, ih]
    simp

theorem zipWith_mapIdx {α β γ : Type} (f : α → β → γ) (g : Nat → α → β) (l : List α) :
    l.zipWith f (l.mapIdx g) = l.mapIdx fun i a => f a (g i a) := by
  induction l generalizing g with
  | nil => rfl
  | cons a l ih => simp [List.mapIdx_cons, ih]

theorem found_add_declared_length (earlier : List (String × Location)) (ns : List Node) :
    ((redeclarations earlier ns).filterMap id).length + (ns.foldl declareFirst earlier).length =
      earlier.length + (ns.filterMap Node.name?).length := by
  induction ns generalizing earlier with
  | nil => simp [redeclarations]
  | cons n ns ih =>
    rw [redeclarations, List.foldl_cons]
    cases hn : n.name? with
    | none =>
      have hr : n.redeclaration? earlier = none := by simp [Node.redeclaration?, hn]
      have hd : declareFirst earlier n = earlier := by simp [declareFirst, hn]
      simpa [hr, hd, hn] using ih earlier
    | some x =>
      cases hlook : earlier.lookup x with
      | some loc =>
        -- a redeclaration: found, and nothing recorded
        have hr : (n.redeclaration? earlier).isSome := by
          simp [Node.redeclaration?, hn, find?_fst_beq, hlook]
        have hd : declareFirst earlier n = earlier := by
          simp [declareFirst, hn, any_fst_beq, hlook]
        obtain ⟨d, hd'⟩ := Option.isSome_iff_exists.1 hr
        have := ih earlier
        simp only [hd', hd, hn, List.filterMap_cons, id, List.length_cons] at this ⊢
        omega
      | none =>
        -- a first declaration: not found, and recorded
        have hr : n.redeclaration? earlier = none := by
          simp [Node.redeclaration?, hn, find?_fst_beq, hlook]
        have hd : declareFirst earlier n = earlier ++ [(x, n.start)] := by
          simp [declareFirst, hn, any_fst_beq, hlook]
        have := ih (earlier ++ [(x, n.start)])
        simp only [hr, hd, hn, List.filterMap_cons, id, List.length_cons, List.length_append,
          List.length_nil] at this ⊢
        omega

theorem countP_label_ofTokens (ts : List Token) :
    (Node.ofTokens ts).countP (fun n => n.kind = .label) =
      ((Node.ofTokens ts).filterMap Node.name?).length := by
  rw [List.length_filterMap_eq_countP]
  apply List.countP_congr
  intro n hn
  obtain ⟨t, i, args, rfl⟩ := exists_ofLeading_of_mem_nodesFrom hn
  constructor
  · intro hk
    simp only [decide_eq_true_eq] at hk
    -- a label statement stands alone, so its leading token is a label
    obtain ⟨hstand, -, -⟩ := (ofLeading_shaped t i args).standalone (.inr (.inr (.inl hk)))
    rw [hk] at hstand
    cases ht : t.lexeme <;> simp [Lexeme.standaloneKind?, ht] at hstand
    simp [Node.name?, hk, ht]
  · intro hx
    obtain ⟨x, hx⟩ := Option.isSome_iff_exists.1 hx
    simpa using Node.kind_of_name? hx

/-- The duplicate check is exact on every parse: each label statement whose name an earlier one
declares gets an error hinting at the first of them, nothing else changes, and the count is the
number of label statements less the number of distinct names. -/
theorem checkDuplicateLabels_exact (ts : List Token) :
    let ns := Node.ofTokens ts
    checkDuplicateLabels ns =
      (ns.mapIdx fun i n => n.attachFound (n.duplicateError? (ns.take i)),
        ns.countP (fun n => n.kind = .label) - (ns.filterMap Node.name?).eraseDups.length) ∧
    ∀ x, (declaredLabels ns).lookup x = (ns.find? (·.name? == some x)).map (·.start) := by
  intro ns
  have hlabels : ns.countP (fun n => n.kind = .label) = (ns.filterMap Node.name?).length :=
    countP_label_ofTokens ts
  have hfound := redeclarations_foldl [] ns
  have hcount := found_add_declared_length [] ns
  have hdecl : (ns.foldl declareFirst []).length = (ns.filterMap Node.name?).eraseDups.length := by
    rw [← List.length_map Prod.fst, map_fst_foldl_declareFirst]
    simp
  simp only [List.foldl_nil, List.nil_append] at hfound
  refine ⟨?_, fun x => ?_⟩
  · rw [checkDuplicateLabels, markRedeclarations_eq, hfound, hlabels]
    congr 1
    · exact zipWith_mapIdx _ _ ns
    · rw [← hfound]
      simp only [List.length_nil, Nat.zero_add] at hcount
      omega
  · change (ns.foldl declareFirst []).lookup x = _
    simp [lookup_foldl_declareFirst]

end Lc3Lint
