import Mathlib
import Lc3Lint.Proofs.CheckIndependence
/-! The label check, exactly: a name is declared by a label statement anywhere in the sequence, and
each well-formed reference to an undeclared name gets one error with a hint. -/
namespace Lc3Lint

def declaredNames (ns : List Node) : List String := (ns.filterMap Node.name?).eraseDups

def undeclaredHint? (ns : List Node) (x : String) : Option String :=
  (match (ns.filterMap Node.name?).find? (fun y => Text.lower y == Text.lower x) with
    | some y => some y
    | none => (Text.closeMatches x (declaredNames ns) 1).head?).map
    fun y => s!"did you mean `{y}`?"

/-- The error the label check owes statement `n` of `ns`: a well-formed branch, load or store
whose last operand is a label that no label statement of `ns` declares gets one, on that operand. -/
def Node.undeclaredLabelError? (ns : List Node) (n : Node) : Option Diagnostic :=
  match n.args.getLast? with
  | some t =>
    match t.lexeme with
    | .label x =>
      if !n.kind.isError && n.kind.takesTarget && ns.all (·.name? != some x) then
        some { severity := .error, message := s!"Undefined label `{x}`", start := t.start,
               last := t.last, hint := undeclaredHint? ns x }
      else none
    | _ => none
  | none => none

theorem find?_eraseDups {α : Type} [BEq α] [LawfulBEq α] (p : α → Bool) (l : List α) :
    l.eraseDups.find? p = l.find? p := by
  cases l with
  | nil => rfl
  | cons a as =>
    rw [List.eraseDups_cons, List.find?_cons, List.find?_cons,
      find?_eraseDups p (as.filter fun b => !b == a), List.find?_filter]
    cases hpa : p a with
    | true => rfl
    | false =>
      -- the copies of `a` that were removed fail the test as `a` does
      dsimp only
      congr 1
      funext b
      by_cases hb : b = a
      · simp [hb, hpa]
      · simp [hb]
termination_by l.length
decreasing_by
  have := List.length_filter_le (fun b => !b == a) as
  simp only [List.length_cons]
  omega

theorem map_fst_foldl_declareFirst (ns : List Node) (earlier : List (String × Location)) :
    (ns.foldl declareFirst earlier).map Prod.fst =
      earlier.map Prod.fst ++
        ((ns.filterMap Node.name?).filter fun y => !earlier.any (·.1 == y)).eraseDups := by
  induction ns generalizing earlier with
  | nil => simp
  | cons n ns ih =>
    rw [List.foldl_cons, List.filterMap_cons, declareFirst]
    cases hx : n.name? with
    | none => exact ih earlier
    | some x =>
      dsimp only
      by_cases hdecl : earlier.any (·.1 == x) = true
      · rw [if_pos hdecl, ih, List.filter_cons_of_neg (by simp [hdecl])]
      · rw [Bool.not_eq_true] at hdecl
        -- declaring `x` takes it out of what later statements can add
        have hpred : (fun y => !(earlier ++ [(x, n.start)]).any (·.1 == y)) =
            fun y => !y == x && !earlier.any (·.1 == y) := by
          funext y
          by_cases hy : y = x
          · simp [hy, hdecl]
          · have hxy : (x == y) = false := by simpa using Ne.symm hy
            have hyx : (y == x) = false := by simpa using hy
            simp [List.any_append, hxy, hyx]
        rw [if_neg (by simp only [hdecl, Bool.false_eq_true, not_false_eq_true]), ih,
          List.filter_cons_of_pos (by simp only [hdecl, Bool.not_false]), List.eraseDups_cons,
          List.filter_filter, hpred]
        simp

theorem map_fst_declaredLabels (ns : List Node) :
    (declaredLabels ns).map Prod.fst = declaredNames ns := by
  change (ns.foldl declareFirst []).map Prod.fst = _
  simpa [declaredNames] using map_fst_foldl_declareFirst ns []

theorem contains_declaredNames (ns : List Node) (x : String) :
    (declaredNames ns).contains x = !ns.all (·.name? != some x) := by
  apply Bool.eq_iff_iff.2
  simp [declaredNames, List.mem_eraseDups, List.mem_filterMap]

theorem suggestLabel?_declared (ns : List Node) (x : String) :
    (suggestLabel? x (declaredNames ns)).map (fun y => s!"did you mean `{y}`?") =
      undeclaredHint? ns x := by
  -- the two matches on the first name equal up to case are the same match, though not always
  -- the same auxiliary definition, so the rewrite must not try to close the goal
  rewrite [suggestLabel?, undeclaredHint?, declaredNames, find?_eraseDups]
  cases (ns.filterMap Node.name?).find? (fun y => Text.lower y == Text.lower x) <;> rfl

theorem undefinedReference?_declared (ns : List Node) (n : Node) :
    n.undefinedReference? ((declaredLabels ns).map Prod.fst) = n.undeclaredLabelError? ns := by
  rw [map_fst_declaredLabels]
  unfold Node.undefinedReference? Node.target? Node.undeclaredLabelError?
  cases hk : n.kind.takesTarget with
  | false =>
    cases n.args.getLast? with
    | none => rfl
    | some t => cases hl : t.lexeme <;> simp [hl]
  | true =>
    rw [NodeKind.isError_of_takesTarget hk]
    cases n.args.getLast? with
    | none => rfl
    | some t =>
      cases hl : t.lexeme with
      | label x =>
        simp only [hl, ite_true, Bool.not_false, Bool.true_and, contains_declaredNames]
        cases ns.all (·.name? != some x)
        · rfl
        · simp [suggestLabel?_declared]
      | _ => simp [hl]

/-- Label resolution is exact: each well-formed branch, load or store naming a label no statement
declares gets an error on that operand, hinting at the name equal up to case or else the closest;
no other statement changes, and the count is the number of errors. -/
theorem resolveLabels_exact (ns : List Node) :
    resolveLabels ns = (ns.map fun n => n.attachFound (n.undeclaredLabelError? ns),
      ns.countP fun n => (n.undeclaredLabelError? ns).isSome) := by
  simp only [resolveLabels, undefinedReference?_declared, List.length_filterMap_eq_countP]

-- a reference declared only in another case is pointed at the declaration; a later one resolves
example : ((resolveLabels (Node.ofTokens (Token.scan "BR loop\nLOOP\nJSR LOOP" "f"))).1.flatMap
    (·.diagnostics)).map (·.hint) = [some "did you mean `LOOP`?"] := by decide +kernel

end Lc3Lint
