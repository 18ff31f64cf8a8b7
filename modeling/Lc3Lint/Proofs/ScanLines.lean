import Mathlib
import Lc3Lint.Proofs.SourceLines
/-! Scanning goes line by line: across a line feed the scanner carries nothing but its cursor, unless a
string is left open. -/
namespace Lc3Lint

def Location.shiftLines (k : Int) (l : Location) : Location := { l with line := l.line + k }

def Token.shiftLines (k : Int) (t : Token) : Token :=
  { t with start := t.start.shiftLines k, last := t.last.shiftLines k }

/-- Whether a token is no string left open: a string token ends with a closing double quote that
is not its opening one. -/
def Token.closesString (t : Token) : Bool :=
  match t.lexeme with
  | .string _ => decide (2 ≤ t.text.length) && t.text.toList.getLast? == some '"'
  | _ => true

namespace Cursor

def down (p : Cursor) (k : Nat) : Cursor := ⟨p.line + k, p.column⟩

theorem advance_down (p : Cursor) (k : Nat) (c : Char) :
    (p.down k).advance c = (p.advance c).down k := by
  by_cases hc : c = '\n'
  · simp only [advance, down, hc, if_true, mk.injEq, and_true]
    omega
  · simp [advance, down, hc]

theorem advanceAll_down (p : Cursor) (k : Nat) (cs : List Char) :
    (p.down k).advanceAll cs = (p.advanceAll cs).down k := by
  induction cs generalizing p with
  | nil => rfl
  | cons c cs ih => rw [advanceAll_cons, advance_down, ih, advanceAll_cons]

theorem toLocation_down (p : Cursor) (k : Nat) (file : String) :
    (p.down k).toLocation file = (p.toLocation file).shiftLines k := by
  simp [down, toLocation, Location.shiftLines]

theorem column_advanceAll_start (cs : List Char) :
    (advanceAll ⟨1, 1⟩ cs).column = 1 + (cs.reverse.takeWhile (· != '\n')).length := by
  obtain ⟨A, B, rfl, hB, hA⟩ := exists_lastLine cs
  have hBne : ∀ c ∈ B.reverse, (c != '\n') = true := by
    intro c hc
    have hne : c ≠ '\n' := fun h => hB (h ▸ List.mem_reverse.1 hc)
    simpa using hne
  rw [advanceAll_lastLine hA hB, List.reverse_append, List.takeWhile_append_of_pos hBne]
  rcases hA with rfl | ⟨A', rfl⟩ <;> simp

end Cursor

section Runs

variable {α : Type} {p : α → Bool} {xs ys : List α}

theorem takeWhile_append_cons_of_neg {y : α} (hy : p y = false) :
    (xs ++ y :: ys).takeWhile p = xs.takeWhile p := by
  induction xs with
  | nil => simp [hy]
  | cons x xs ih => by_cases hx : p x <;> simp [hx, ih]

theorem dropWhile_append_cons_of_neg {y : α} (hy : p y = false) :
    (xs ++ y :: ys).dropWhile p = xs.dropWhile p ++ y :: ys := by
  induction xs with
  | nil => simp [hy]
  | cons x xs ih => by_cases hx : p x <;> simp [hx, ih]

theorem takeWhile_append_of_stop (h : xs.dropWhile p ≠ []) :
    (xs ++ ys).takeWhile p = xs.takeWhile p := by
  rw [List.takeWhile_append, if_neg]
  intro hlen
  have hsum := congrArg List.length (List.takeWhile_append_dropWhile (p := p) (l := xs))
  rw [List.length_append, hlen] at hsum
  exact h (List.eq_nil_of_length_eq_zero (by omega))

theorem dropWhile_append_of_stop (h : xs.dropWhile p ≠ []) :
    (xs ++ ys).dropWhile p = xs.dropWhile p ++ ys := by
  rw [List.dropWhile_append, if_neg (by simpa using h)]

end Runs

theorem lexemeAt_quote_open {cs : List Char} (h : cs.dropWhile (· != '"') = []) :
    lexemeAt '"' cs = ⟨.string (String.ofList cs), cs, []⟩ := by
  have hsplit := List.takeWhile_append_dropWhile (p := (· != '"')) (l := cs)
  rw [h, List.append_nil] at hsplit
  simp only [lexemeAt, if_neg (by decide : ('"' : Char) ≠ '\n'),
    if_neg (by decide : ('"' : Char) ≠ ','), if_true, h, hsplit]

theorem dropWhile_quote_ne_nil {cs : List Char} {start last : Location}
    (h : (⟨(lexemeAt '"' cs).lexeme, start, last,
      String.ofList ('"' :: (lexemeAt '"' cs).body)⟩ : Token).closesString) :
    cs.dropWhile (· != '"') ≠ [] := by
  intro hnil
  rw [lexemeAt_quote_open hnil] at h
  -- the text is the opening quote and characters that are no quote
  simp only [Token.closesString, String.length_ofList, String.toList_ofList, List.length_cons,
    Bool.and_eq_true, decide_eq_true_eq, beq_iff_eq] at h
  obtain ⟨hlen, hlast⟩ := h
  have hne : cs ≠ [] := by
    rintro rfl
    simp at hlen
  obtain ⟨c, cs', rfl⟩ := List.exists_cons_of_ne_nil hne
  rw [List.getLast?_cons_cons] at hlast
  have hall := List.dropWhile_eq_nil_iff.1 hnil '"' (List.mem_of_getLast? hlast)
  simp at hall

theorem lexemeAt_append_lineFeed (c : Char) (cs b : List Char)
    (hc : c = '"' → cs.dropWhile (· != '"') ≠ []) :
    lexemeAt c (cs ++ '\n' :: b) =
      ⟨(lexemeAt c cs).lexeme, (lexemeAt c cs).body, (lexemeAt c cs).rest ++ '\n' :: b⟩ := by
  unfold lexemeAt
  split
  · rfl
  split
  · rfl
  split
  · -- the string closes inside `cs`, at the first quote
    rename_i hq
    have hstop := hc hq
    obtain ⟨d, r, hdr⟩ := List.exists_cons_of_ne_nil hstop
    have hd : d = '"' := by
      have := List.head_dropWhile_not (fun x => x != '"') (l := cs) (by rw [hdr]; simp)
      simp only [hdr, List.head_cons, bne_eq_false_iff_eq] at this
      exact this
    subst hd
    rw [takeWhile_append_of_stop hstop, dropWhile_append_of_stop hstop, hdr]
    rfl
  -- every other token stops at the line feed
  split
  · rw [takeWhile_append_cons_of_neg (by simp), dropWhile_append_cons_of_neg (by simp)]
  split
  · rw [takeWhile_append_cons_of_neg (p := isWordChar) (by decide),
      dropWhile_append_cons_of_neg (p := isWordChar) (by decide)]
  split
  · rw [takeWhile_append_cons_of_neg (p := fun c => !Text.isBlank c) (by decide),
      dropWhile_append_cons_of_neg (p := fun c => !Text.isBlank c) (by decide)]
  · rw [takeWhile_append_cons_of_neg (p := isWordChar) (by decide),
      dropWhile_append_cons_of_neg (p := isWordChar) (by decide)]

/-- Scanning a text, a line feed and more text: the tokens of the text, a line end token, and the
tokens of the rest from the next line. The induction follows the scanner over the first text. -/
theorem scanFrom_append_lineFeed (file : String) (p : Cursor) (a b : List Char)
    (ha : ∀ t ∈ scanFrom file p a, t.closesString) :
    scanFrom file p (a ++ '\n' :: b) = scanFrom file p a ++
      ⟨.newline, (p.advanceAll a).toLocation file, (p.advanceAll a).toLocation file, "\n"⟩ ::
        scanFrom file ⟨(p.advanceAll a).line + 1, 1⟩ b := by
  induction p, a using scanFrom.induct with
  | case1 p =>
    simp [scanFrom, lexemeAt, Cursor.advanceAll, Cursor.advance]
  | case2 p c cs hblank ih =>
    rw [scanFrom, if_pos hblank] at ha
    rw [List.cons_append, scanFrom, if_pos hblank, ih ha, scanFrom, if_pos hblank,
      Cursor.advanceAll_cons]
  | case3 p c cs hblank l text ih =>
    rw [scanFrom, if_neg hblank] at ha
    have hhead := ha _ List.mem_cons_self
    have hquote : c = '"' → cs.dropWhile (· != '"') ≠ [] := by
      rintro rfl
      exact dropWhile_quote_ne_nil hhead
    have hrest := ih fun t ht => ha t (List.mem_cons_of_mem _ ht)
    have hcursor : p.advanceAll (c :: cs) = (p.advanceAll text).advanceAll l.rest := by
      rw [← Cursor.advanceAll_append]
      simp only [text, l, List.cons_append, lexemeAt_body_append]
    rw [List.cons_append, scanFrom, if_neg hblank, lexemeAt_append_lineFeed c cs b hquote]
    dsimp only
    simp only [text, l] at hrest hcursor
    rw [hrest, hcursor, scanFrom, if_neg hblank]
    rfl

theorem scanFrom_down (file : String) (p : Cursor) (k : Nat) (cs : List Char) :
    scanFrom file (p.down k) cs = (scanFrom file p cs).map (Token.shiftLines k) := by
  induction p, cs using scanFrom.induct with
  | case1 p => simp [scanFrom]
  | case2 p c cs hblank ih =>
    rw [scanFrom, if_pos hblank, Cursor.advance_down, ih, scanFrom, if_pos hblank]
  | case3 p c cs hblank l text ih =>
    rw [scanFrom, if_neg hblank, scanFrom, if_neg hblank, List.map_cons]
    dsimp only
    simp only [text, l] at ih
    simp only [Cursor.advanceAll_down, Cursor.toLocation_down, ih]
    rfl

/-- Scanning is line by line. When no string of the text `a` is left open, the tokens of `a`, a
line feed and `b` are the tokens of `a`, a line end token on the last line of `a` one column past
its last character, and the tokens of `b` moved down by the lines of `a`. -/
theorem scan_append_line (a b file : String) (ha : ∀ t ∈ Token.scan a file, t.closesString) :
    Token.scan (a ++ "\n" ++ b) file =
      Token.scan a file ++
        ⟨.newline, ⟨file, 1 + a.toList.count '\n', 1 + (a.toList.reverse.takeWhile (· != '\n')).length⟩,
          ⟨file, 1 + a.toList.count '\n', 1 + (a.toList.reverse.takeWhile (· != '\n')).length⟩, "\n"⟩ ::
        (Token.scan b file).map (Token.shiftLines (1 + a.toList.count '\n')) := by
  have hcursor : Cursor.advanceAll ⟨1, 1⟩ a.toList =
      ⟨1 + a.toList.count '\n', 1 + (a.toList.reverse.takeWhile (· != '\n')).length⟩ := by
    have hline : (Cursor.advanceAll ⟨1, 1⟩ a.toList).line = 1 + a.toList.count '\n' :=
      Cursor.line_advanceAll _ _
    rw [← hline, ← Cursor.column_advanceAll_start]
  have hnext : (⟨1 + a.toList.count '\n' + 1, 1⟩ : Cursor) =
      Cursor.down ⟨1, 1⟩ (1 + a.toList.count '\n') := by
    simp only [Cursor.down, Cursor.mk.injEq, and_true]
    omega
  have hlf : "\n".toList = ['\n'] := by simp
  simp only [Token.scan, String.toList_append, hlf, List.append_assoc, List.singleton_append]
  rw [scanFrom_append_lineFeed file ⟨1, 1⟩ a.toList b.toList ha, hcursor, hnext, scanFrom_down]
  simp [Cursor.toLocation]

theorem scan_append_line_sample :
    (∀ t ∈ Token.scan "LOOP .STRINGZ \"ok\" ; done" "f", t.closesString) ∧
      Token.scan ("LOOP .STRINGZ \"ok\" ; done" ++ "\n" ++ "BR LOOP") "f" =
        Token.scan "LOOP .STRINGZ \"ok\" ; done" "f" ++
          ⟨.newline, ⟨"f", 1 + "LOOP .STRINGZ \"ok\" ; done".toList.count '\n',
              1 + ("LOOP .STRINGZ \"ok\" ; done".toList.reverse.takeWhile (· != '\n')).length⟩,
            ⟨"f", 1 + "LOOP .STRINGZ \"ok\" ; done".toList.count '\n',
              1 + ("LOOP .STRINGZ \"ok\" ; done".toList.reverse.takeWhile (· != '\n')).length⟩,
            "\n"⟩ ::
          (Token.scan "BR LOOP" "f").map
            (Token.shiftLines (1 + "LOOP .STRINGZ \"ok\" ; done".toList.count '\n')) :=
  have h : ∀ t ∈ Token.scan "LOOP .STRINGZ \"ok\" ; done" "f", t.closesString := by decide +kernel
  ⟨h, scan_append_line _ _ _ h⟩

end Lc3Lint
