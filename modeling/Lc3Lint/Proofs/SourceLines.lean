import Mathlib
import Lc3Lint.Proofs.TokenSpans
import Lc3Lint.Session
/-! The lines of a text: an offset lies on the line its cursor counts, and the cursor's column is
one past the characters before it on that line. -/
namespace Lc3Lint

section Splitting

variable {sep : String} {c : Char} (hsep : (0 : String.Pos.Raw).get sep = c)
  (hend : ((0 : String.Pos.Raw).next sep).atEnd sep = true)
include hsep hend

theorem splitOnAux_char (s : String) (b i : String.Pos.Raw) (r : List String) :
    String.splitOnAux s sep b i 0 r = String.splitAux s (· == c) b i r := by
  induction b, i, r using String.splitAux.induct s (· == c) with
  | case1 b i r h =>
    rw [String.splitOnAux, String.splitAux, if_pos h, dif_pos h]
  | case2 b i r h _ hp _ ih =>
    -- the separator is matched in full after one character
    rw [String.splitOnAux, String.splitAux, if_neg h, dif_neg h]
    have hc : String.Pos.Raw.get s i = c := by simpa using hp
    have hback : (String.Pos.Raw.next s i).unoffsetBy (String.Pos.Raw.next sep 0) = i := by
      simp [String.Pos.Raw.next, String.Pos.Raw.unoffsetBy, hc, hsep]
    simp only [hsep, hp, if_true, hend, hback]
    exact ih
  | case3 b i r h _ hp ih =>
    rw [String.splitOnAux, String.splitAux, if_neg h, dif_neg h]
    have hzero : i.unoffsetBy 0 = i := by simp [String.Pos.Raw.unoffsetBy]
    simp only [hsep, hp, hzero]
    exact ih

theorem splitOn_char (hne : (sep == "") = false) (s : String) :
    s.splitOn sep = (s.toList.splitOnP (· == c)).map String.ofList := by
  rw [String.splitOn, if_neg (by simp [hne]), splitOnAux_char hsep hend]
  exact String.splitToList_of_valid s _

end Splitting

theorem splitOn_newline (s : String) :
    s.splitOn "\n" = (s.toList.splitOnP (· == '\n')).map String.ofList :=
  splitOn_char (by decide) (by decide) (by decide) s

section Split

variable (l : List Char)

theorem length_splitOnP : (l.splitOnP (· == '\n')).length = l.count '\n' + 1 := by
  induction l with
  | nil => simp
  | cons c l ih =>
    rw [List.splitOnP_cons_eq_if_modifyHead]
    by_cases hc : c = '\n' <;> simp [hc, ih]

theorem getElem?_zero_splitOnP :
    (l.splitOnP (· == '\n'))[0]? = some (l.takeWhile (· != '\n')) := by
  induction l with
  | nil => simp
  | cons c l ih =>
    rw [List.splitOnP_cons_eq_if_modifyHead]
    by_cases hc : c = '\n'
    · simp [hc]
    · obtain ⟨x, xs, hx⟩ := List.exists_cons_of_ne_nil (List.splitOnP_ne_nil (· == '\n') l)
      rw [hx] at ih ⊢
      simp_all

end Split

theorem exists_lastLine (xs : List Char) :
    ∃ A B, xs = A ++ B ∧ '\n' ∉ B ∧ (A = [] ∨ ∃ A', A = A' ++ ['\n']) := by
  induction xs using List.reverseRecOn with
  | nil => exact ⟨[], [], rfl, List.not_mem_nil, .inl rfl⟩
  | append_singleton xs c ih =>
    obtain ⟨A, B, rfl, hB, hA⟩ := ih
    by_cases hc : c = '\n'
    · exact ⟨A ++ B ++ [c], [], by simp, List.not_mem_nil, .inr ⟨A ++ B, by rw [hc]⟩⟩
    · refine ⟨A, B ++ [c], by simp, ?_, hA⟩
      simp only [List.mem_append, List.mem_singleton, not_or]
      exact ⟨hB, Ne.symm hc⟩

namespace Cursor

theorem line_advanceAll (p : Cursor) (xs : List Char) :
    (p.advanceAll xs).line = p.line + xs.count '\n' := by
  induction xs generalizing p with
  | nil => rfl
  | cons c xs ih =>
    rw [advanceAll_cons, ih]
    by_cases hc : c = '\n'
    · simp [advance, hc]
      omega
    · simp [advance, hc]

theorem advanceAll_of_not_mem (p : Cursor) {xs : List Char} (h : '\n' ∉ xs) :
    p.advanceAll xs = ⟨p.line, p.column + xs.length⟩ := by
  induction xs generalizing p with
  | nil => rfl
  | cons c xs ih =>
    have hc : c ≠ '\n' := fun hc => h (hc ▸ List.mem_cons_self)
    rw [advanceAll_cons, ih _ fun hm => h (List.mem_cons_of_mem c hm)]
    simp only [advance, hc, if_false, List.length_cons, mk.injEq, true_and]
    omega

theorem advanceAll_line_feed (p : Cursor) (xs : List Char) :
    p.advanceAll (xs ++ ['\n']) = ⟨p.line + xs.count '\n' + 1, 1⟩ := by
  rw [advanceAll_append]
  show advance (p.advanceAll xs) '\n' = _
  rw [advance, if_pos rfl, line_advanceAll]

theorem advanceAll_lastLine {A B : List Char} (hA : A = [] ∨ ∃ A', A = A' ++ ['\n'])
    (hB : '\n' ∉ B) : advanceAll ⟨1, 1⟩ (A ++ B) = ⟨1 + A.count '\n', 1 + B.length⟩ := by
  rw [advanceAll_append, advanceAll_of_not_mem _ hB]
  rcases hA with rfl | ⟨A', rfl⟩
  · rfl
  · rw [advanceAll_line_feed]
    simp [List.count_append]
    omega

end Cursor

theorem splitOnP_getElem?_lines {A : List Char} (hA : A = [] ∨ ∃ A', A = A' ++ ['\n'])
    (rest : List Char) :
    ((A ++ rest).splitOnP (· == '\n'))[A.count '\n']? = (rest.splitOnP (· == '\n'))[0]? := by
  rcases hA with rfl | ⟨A', rfl⟩
  · rfl
  · rw [List.append_assoc, List.singleton_append, List.splitOnP_append_cons _ _ (by decide),
      List.getElem?_append_right (by rw [length_splitOnP]; simp [List.count_append])]
    simp [length_splitOnP, List.count_append]

/-- The line an offset lies on, as the cursor counts it: the characters `B` before the offset
since the last line feed, then those after it up to the next line feed; the column is one past
`B`. -/
theorem splitOnP_line_at (cs : List Char) (p : Nat) :
    ∃ B, '\n' ∉ B ∧
      (cs.splitOnP (· == '\n'))[(Cursor.advanceAll ⟨1, 1⟩ (cs.take p)).line - 1]? =
        some (B ++ (cs.drop p).takeWhile (· != '\n')) ∧
      (Cursor.advanceAll ⟨1, 1⟩ (cs.take p)).column = B.length + 1 := by
  obtain ⟨A, B, hAB, hB, hA⟩ := exists_lastLine (cs.take p)
  have hcs : cs = A ++ (B ++ cs.drop p) := by
    rw [← List.append_assoc, ← hAB, List.take_append_drop]
  have htw : (B ++ cs.drop p).takeWhile (· != '\n') = B ++ (cs.drop p).takeWhile (· != '\n') :=
    List.takeWhile_append_of_pos fun c hc => by
      simpa using fun h : c = '\n' => hB (h ▸ hc)
  rw [hAB, Cursor.advanceAll_lastLine hA hB]
  refine ⟨B, hB, ?_, by simp only; omega⟩
  simp only [Nat.add_sub_cancel_left]
  conv => lhs; rw [hcs]
  rw [splitOnP_getElem?_lines hA, getElem?_zero_splitOnP, htw]

section LineFeed

variable {l : List Char} {m : Nat}

theorem getElem?_ne_newline (h : m < (l.takeWhile (· != '\n')).length) : l[m]? ≠ some '\n' := by
  have hm : m < l.length := Nat.lt_of_lt_of_le h (List.takeWhile_prefix _).length_le
  rw [List.getElem?_eq_getElem hm, ← (List.takeWhile_prefix (· != '\n')).getElem h, ne_eq,
    Option.some.injEq]
  simpa using List.mem_takeWhile_imp (List.getElem_mem h)

theorem getElem?_takeWhile_length :
    ∀ {l : List Char}, (l.takeWhile (· != '\n')).length < l.length →
      l[(l.takeWhile (· != '\n')).length]? = some '\n'
  | [], h => absurd h (by simp)
  | c :: l, h => by
    by_cases hc : c = '\n'
    · simp [hc]
    · have ih := getElem?_takeWhile_length (l := l) (by simpa [List.takeWhile_cons, hc] using h)
      simpa [List.takeWhile_cons, hc] using ih

theorem not_mem_take_iff (hm : m < l.length) :
    '\n' ∉ l.take m ↔ m ≤ (l.takeWhile (· != '\n')).length := by
  constructor
  · intro h
    refine Nat.le_of_not_lt fun hlt => h ?_
    have hget := getElem?_takeWhile_length (l := l) (by omega)
    rw [← List.getElem?_take_of_lt hlt] at hget
    exact List.mem_of_getElem? hget
  · intro hle hmem
    obtain ⟨j, hj⟩ := List.mem_iff_getElem?.1 hmem
    have hjm : j < m := by
      have := (List.getElem?_eq_some_iff.1 hj).1
      simp only [List.length_take] at this
      omega
    rw [List.getElem?_take_of_lt hjm] at hj
    exact getElem?_ne_newline (by omega) hj

end LineFeed

theorem lineAt_offsetLocation (source file : String) {p : Nat} (hp : p ≤ source.length) :
    ∃ B, '\n' ∉ B ∧
      Collector.lineAt (some (source.splitOn "\n")) (offsetLocation file source.toList p).line =
        some (String.ofList (B ++ (source.toList.drop p).takeWhile (· != '\n'))) ∧
      (offsetLocation file source.toList p).column = B.length + 1 := by
  obtain ⟨B, hB, hline, hcol⟩ := splitOnP_line_at source.toList p
  rw [offsetLocation_eq (by rw [String.length_toList]; exact hp)]
  refine ⟨B, hB, ?_, by simp [Cursor.toLocation, hcol]⟩
  have hpos : 1 ≤ (Cursor.advanceAll ⟨1, 1⟩ (source.toList.take p)).line := by
    rw [Cursor.line_advanceAll]
    exact Nat.le_add_right _ _
  simp only [Collector.lineAt, Cursor.toLocation, splitOn_newline, List.getElem?_map]
  rw [if_pos (by omega), show ((((Cursor.advanceAll ⟨1, 1⟩ (source.toList.take p)).line : Nat) :
    Int) - 1).toNat = (Cursor.advanceAll ⟨1, 1⟩ (source.toList.take p)).line - 1 by omega, hline]
  rfl

theorem offsetLocation_add_of_not_mem (file : String) (cs : List Char) {p m : Nat}
    (hpm : p + m ≤ cs.length) (h : '\n' ∉ (cs.drop p).take m) :
    (offsetLocation file cs (p + m)).line = (offsetLocation file cs p).line ∧
      (offsetLocation file cs (p + m)).column = (offsetLocation file cs p).column + m := by
  have hlen : ((cs.drop p).take m).length = m := by
    simp only [List.length_take, List.length_drop]
    omega
  rw [offsetLocation_eq hpm, offsetLocation_eq (by omega), List.take_add,
    Cursor.advanceAll_append, Cursor.advanceAll_of_not_mem _ h, hlen]
  simp [Cursor.toLocation]

theorem offsetLocation_line_lt (file : String) (cs : List Char) {p m : Nat}
    (hpm : p + m ≤ cs.length) (h : '\n' ∈ (cs.drop p).take m) :
    (offsetLocation file cs p).line < (offsetLocation file cs (p + m)).line := by
  rw [offsetLocation_eq hpm, offsetLocation_eq (by omega), List.take_add,
    Cursor.advanceAll_append]
  simp only [Cursor.toLocation]
  rw [Cursor.line_advanceAll _ ((cs.drop p).take m)]
  have := List.count_pos_iff.2 h
  omega

/-- A span from offset `p` to `q`, seen from the line it starts on: the start's column lies on the
line, and a span ending on it ends as far past the start as it is long, one past the line at most,
exactly when its last character is the line feed. -/
theorem span_from_line (source file : String) {p q : Nat} (hpq : p ≤ q) (hq : q < source.length)
    (hp : source.toList[p]? ≠ some '\n') :
    ∃ line, Collector.lineAt (some (source.splitOn "\n"))
        (offsetLocation file source.toList p).line = some line ∧
      1 ≤ (offsetLocation file source.toList p).column ∧
      (offsetLocation file source.toList p).column ≤ line.length ∧
      ((offsetLocation file source.toList q).line = (offsetLocation file source.toList p).line →
        (offsetLocation file source.toList q).column =
          (offsetLocation file source.toList p).column + (q - p : Nat) ∧
        (offsetLocation file source.toList q).column ≤ line.length + 1 ∧
        ((offsetLocation file source.toList q).column = line.length + 1 ↔
          source.toList[q]? = some '\n')) := by
  have hlen : source.toList.length = source.length := String.length_toList
  obtain ⟨B, -, hline, hcol⟩ := lineAt_offsetLocation source file (p := p) (by omega)
  set l := source.toList.drop p
  have hl : q - p < l.length := by simp only [l, List.length_drop]; omega
  have hat : ∀ x, l[x]? = source.toList[p + x]? := fun x => List.getElem?_drop
  -- the start holds no line feed, so the line goes on past it
  have hT : 0 < (l.takeWhile (· != '\n')).length := by
    refine Nat.pos_of_ne_zero fun h0 => hp ?_
    have h := getElem?_takeWhile_length (l := l) (by omega)
    rw [h0, hat] at h
    exact h
  refine ⟨_, hline, by rw [hcol]; omega, ?_, fun hsame => ?_⟩
  · simp only [String.length_ofList, List.length_append, hcol]
    omega
  -- ending on the same line, the span meets no line feed before its last character
  have hnot : '\n' ∉ l.take (q - p) := fun hmem => by
    have := offsetLocation_line_lt file source.toList (p := p) (m := q - p) (by omega) hmem
    rw [Nat.add_sub_cancel' hpq] at this
    omega
  have hle := (not_mem_take_iff hl).1 hnot
  obtain ⟨-, hcolq⟩ := offsetLocation_add_of_not_mem file source.toList (p := p) (m := q - p)
    (by omega) hnot
  rw [Nat.add_sub_cancel' hpq] at hcolq
  refine ⟨hcolq, ?_⟩
  simp only [String.length_ofList, List.length_append, hcolq, hcol]
  refine ⟨by omega, ?_⟩
  rw [← Nat.add_sub_cancel' hpq, ← hat]
  constructor
  · intro heq
    rw [show q - p = (l.takeWhile (· != '\n')).length by omega]
    exact getElem?_takeWhile_length (by omega)
  · intro heq
    rcases Nat.lt_or_ge (q - p) (l.takeWhile (· != '\n')).length with hlt | hge
    · exact absurd heq (getElem?_ne_newline hlt)
    · omega

end Lc3Lint
