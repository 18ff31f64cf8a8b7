import Mathlib.Data.List.Chain
import Lc3Lint.Token.Scan
/-! Scanned tokens lie over their source text, at increasing offsets, with blanks between them and
the locations of their first and last characters. -/
namespace Lc3Lint

def lastLineFeed? : List Char → Option Nat
  | [] => none
  | c :: cs =>
    match lastLineFeed? cs with
    | some i => some (i + 1)
    | none => if c = '\n' then some 0 else none

theorem lastLineFeed?_append (cs : List Char) (c : Char) :
    lastLineFeed? (cs ++ [c]) = if c = '\n' then some cs.length else lastLineFeed? cs := by
  induction cs with
  | nil => by_cases h : c = '\n' <;> simp [lastLineFeed?, h]
  | cons d cs ih =>
    simp only [List.cons_append, lastLineFeed?, ih]
    by_cases h : c = '\n' <;> simp [h]

theorem lastLineFeed?_lt {cs : List Char} {i : Nat} (h : lastLineFeed? cs = some i) :
    i < cs.length := by
  induction cs generalizing i with
  | nil => simp [lastLineFeed?] at h
  | cons c cs ih =>
    simp only [lastLineFeed?] at h
    split at h
    · rename_i j hj
      have := ih hj
      simp only [Option.some.injEq] at h
      simp only [List.length_cons]
      omega
    · split at h
      · simp only [Option.some.injEq] at h
        simp only [List.length_cons]
        omega
      · simp at h

/-- The location of offset `q` of the text `s`, counted from one: the line is one more than the
number of line feeds before `q`, and the column is `q` less the offset of the last of them, or
`q + 1` when there is none. -/
def offsetLocation (file : String) (s : List Char) (q : Nat) : Location :=
  let before := s.take q
  ⟨file, ((1 + before.count '\n' : Nat) : Int),
    ((match lastLineFeed? before with
      | some i => q - i
      | none => q + 1 : Nat) : Int)⟩

namespace Cursor

theorem advanceAll_append (p : Cursor) (cs ds : List Char) :
    p.advanceAll (cs ++ ds) = (p.advanceAll cs).advanceAll ds := by
  simp [advanceAll, List.foldl_append]

theorem advanceAll_cons (p : Cursor) (c : Char) (cs : List Char) :
    p.advanceAll (c :: cs) = (p.advance c).advanceAll cs := rfl

theorem advanceAll_start (cs : List Char) :
    advanceAll ⟨1, 1⟩ cs = ⟨1 + cs.count '\n', match lastLineFeed? cs with
      | some i => cs.length - i
      | none => cs.length + 1⟩ := by
  induction cs using List.reverseRecOn with
  | nil => rfl
  | append_singleton cs c ih =>
    rw [advanceAll_append, ih, lastLineFeed?_append]
    by_cases h : c = '\n'
    · simp [advanceAll, advance, h, List.count_append]
      omega
    · cases hl : lastLineFeed? cs with
      | none => simp [advanceAll, advance, h, List.count_append]
      | some i =>
        have := lastLineFeed?_lt hl
        simp [advanceAll, advance, h, List.count_append]
        omega

end Cursor

theorem offsetLocation_eq {file : String} {s : List Char} {q : Nat} (hq : q ≤ s.length) :
    offsetLocation file s q = (Cursor.advanceAll ⟨1, 1⟩ (s.take q)).toLocation file := by
  have hlen : (s.take q).length = q := List.length_take_of_le hq
  rw [Cursor.advanceAll_start, offsetLocation]
  cases lastLineFeed? (s.take q) <;> simp [Cursor.toLocation, hlen]

example : offsetLocation "f" ['a', 'b', '\n', 'c', 'd'] 4 = ⟨"f", 2, 2⟩ := by decide

theorem Location.before_iff (a b : Location) :
    a.before b = true ↔ a.line < b.line ∨ a.line = b.line ∧ a.column < b.column := by
  simp [Location.before]

theorem Location.before_trans {a b c : Location} (hab : a.before b) (hbc : b.before c) :
    a.before c := by
  rw [Location.before_iff] at *
  omega

namespace Cursor

theorem before_advance (p : Cursor) (c : Char) (file : String) :
    (p.toLocation file).before ((p.advance c).toLocation file) := by
  rw [Location.before_iff]
  unfold advance
  split
  · left
    simp only [toLocation]
    omega
  · right
    refine ⟨rfl, ?_⟩
    simp only [toLocation]
    omega

theorem before_advanceAll (p : Cursor) (c : Char) (cs : List Char) (file : String) :
    (p.toLocation file).before ((p.advanceAll (c :: cs)).toLocation file) := by
  induction cs generalizing p c with
  | nil => exact before_advance p c file
  | cons d cs ih =>
    rw [advanceAll_cons]
    exact Location.before_trans (before_advance p c file) (ih (p.advance c) d)

end Cursor

theorem offsetLocation_before {file : String} {s : List Char} {q r : Nat} (hqr : q < r)
    (hr : r ≤ s.length) : (offsetLocation file s q).before (offsetLocation file s r) := by
  rw [offsetLocation_eq (by omega), offsetLocation_eq hr]
  have hsplit : s.take r = s.take q ++ (s.drop q).take (r - q) := by
    rw [← List.take_add]
    congr 1
    omega
  obtain ⟨c, cs, hc⟩ : ∃ c cs, (s.drop q).take (r - q) = c :: cs := by
    apply List.exists_cons_of_ne_nil
    simp only [ne_eq, List.take_eq_nil_iff, List.drop_eq_nil_iff]
    omega
  rw [hsplit, hc, Cursor.advanceAll_append]
  exact Cursor.before_advanceAll _ c cs file

/-- Token `t` lies at offset `p` of the text `s`: its text is the nonempty run of characters of
`s` from `p`, and its locations are those of the run's first and last characters. -/
structure TokenAt (file : String) (s : List Char) (t : Token) (p : Nat) : Prop where
  text_ne : t.text ≠ ""
  text_eq : t.text.toList = (s.drop p).take t.text.length
  start_eq : t.start = offsetLocation file s p
  last_eq : t.last = offsetLocation file s (p + t.text.length - 1)

theorem TokenAt.run_bounds {file : String} {s : List Char} {t : Token} {p : Nat}
    (h : TokenAt file s t p) : 0 < t.text.length ∧ p + t.text.length ≤ s.length := by
  have hpos : 0 < t.text.length := by
    rw [← String.length_toList]
    apply List.length_pos_iff.2
    intro hnil
    apply h.text_ne
    rw [← @String.ofList_toList t.text, hnil]
  have hlen := congrArg List.length h.text_eq
  simp only [String.length_toList, List.length_take, List.length_drop] at hlen
  omega

theorem tokenAt_append (file : String) (l : Lexeme) (pre text rest : List Char) (h : text ≠ []) :
    TokenAt file (pre ++ text ++ rest)
      ⟨l, (Cursor.advanceAll ⟨1, 1⟩ pre).toLocation file,
        (Cursor.advanceAll ⟨1, 1⟩ (pre ++ text.dropLast)).toLocation file, String.ofList text⟩
      pre.length := by
  have hpos : 0 < text.length := List.length_pos_iff.2 h
  have hlen : (pre ++ text ++ rest).length = pre.length + text.length + rest.length := by
    simp only [List.length_append]
  have htake :
      (pre ++ text ++ rest).take (pre.length + text.length - 1) = pre ++ text.dropLast := by
    rw [List.append_assoc, List.take_append, List.take_of_length_le (by omega),
      List.take_append_of_le_length (by omega), List.dropLast_eq_take]
    congr 2
    omega
  constructor
  · simpa [String.ofList_eq_empty_iff] using h
  · simp [List.append_assoc, List.drop_left']
  · rw [offsetLocation_eq (by omega), List.append_assoc, List.take_left' rfl]
  · rw [String.length_ofList, offsetLocation_eq (by omega), htake]

/-- The tokens `ts` lie at the offsets `offs` of the text `s`, all at or after `lo`, in order, and
every character no run covers is a blank other than a line feed. -/
structure Tiles (file : String) (s : List Char) (lo : Nat) (ts : List Token) (offs : List Nat) :
    Prop where
  at_offsets : List.Forall₂ (TokenAt file s) ts offs
  from_lo : ∀ p ∈ offs, lo ≤ p
  increasing : offs.Pairwise (· < ·)
  apart : (ts.zip offs).IsChain fun a b => a.2 + a.1.text.length ≤ b.2
  gaps : ∀ q c, lo ≤ q → s[q]? = some c →
    (∀ tp ∈ ts.zip offs, ¬ (tp.2 ≤ q ∧ q < tp.2 + tp.1.text.length)) →
    Text.isBlank c = true ∧ c ≠ '\n'
  ordered : ts.IsChain fun t u => t.last.before u.start = true

namespace Tiles

variable {file : String} {s : List Char} {lo : Nat} {ts : List Token} {offs : List Nat}

theorem nil (h : s.length ≤ lo) : Tiles file s lo [] [] where
  at_offsets := .nil
  from_lo := by simp
  increasing := .nil
  apart := .nil
  gaps q c hq hc _ := by
    have := (List.getElem?_eq_some_iff.1 hc).1
    omega
  ordered := .nil

theorem skip {c : Char} (hc : s[lo]? = some c) (hb : Text.isBlank c = true ∧ c ≠ '\n')
    (h : Tiles file s (lo + 1) ts offs) : Tiles file s lo ts offs where
  at_offsets := h.at_offsets
  from_lo p hp := by
    have := h.from_lo p hp
    omega
  increasing := h.increasing
  apart := h.apart
  gaps q d hq hd hn := by
    rcases Nat.eq_or_lt_of_le hq with rfl | hq
    · rw [hc, Option.some.injEq] at hd
      exact hd ▸ hb
    · exact h.gaps q d hq hd hn
  ordered := h.ordered

theorem cons {t : Token} (ht : TokenAt file s t lo)
    (h : Tiles file s (lo + t.text.length) ts offs) :
    Tiles file s lo (t :: ts) (lo :: offs) where
  at_offsets := .cons ht h.at_offsets
  from_lo p hp := by
    rcases List.mem_cons.1 hp with rfl | hp
    · exact le_refl p
    · have := h.from_lo p hp
      omega
  increasing := by
    have hlen := ht.run_bounds.1
    refine List.Pairwise.cons (fun p hp => ?_) h.increasing
    have := h.from_lo p hp
    omega
  apart := by
    rw [List.zip_cons_cons, List.isChain_cons]
    exact ⟨fun b hb => h.from_lo b.2 (List.of_mem_zip (List.mem_of_mem_head? hb)).2, h.apart⟩
  gaps q c hq hc hn := by
    by_cases hq' : q < lo + t.text.length
    · exact absurd ⟨hq, hq'⟩ (hn (t, lo) (by simp))
    · exact h.gaps q c (by omega) hc fun tp htp => hn tp (by simp [htp])
  ordered := by
    cases h.at_offsets with
    | nil => exact .singleton t
    | @cons u p ts' offs' hu _ =>
      refine List.IsChain.cons_cons ?_ h.ordered
      have hp := h.from_lo p (by simp)
      have hlen := ht.run_bounds.1
      have hu' := hu.run_bounds
      rw [ht.last_eq, hu.start_eq]
      exact offsetLocation_before (by omega) (by omega)

end Tiles

theorem scanFrom_tiles (file : String) (p : Cursor) (cs pre : List Char)
    (hp : p = Cursor.advanceAll ⟨1, 1⟩ pre) :
    ∃ offs, Tiles file (pre ++ cs) pre.length (scanFrom file p cs) offs := by
  induction p, cs using scanFrom.induct generalizing pre with
  | case1 p => exact ⟨[], by rw [scanFrom]; exact Tiles.nil (by simp)⟩
  | case2 p c cs hblank ih =>
    obtain ⟨offs, h⟩ := ih (pre ++ [c]) (by rw [hp, Cursor.advanceAll_append]; rfl)
    refine ⟨offs, ?_⟩
    rw [scanFrom, if_pos hblank]
    simp only [List.append_assoc, List.singleton_append, List.length_append,
      List.length_singleton] at h
    have hb : Text.isBlank c = true ∧ c ≠ '\n' := by simpa [and_comm] using hblank
    exact Tiles.skip (by simp) hb h
  | case3 p c cs hblank l text ih =>
    subst hp
    simp only [text, l] at ih
    obtain ⟨offs, h⟩ :=
      ih (pre ++ c :: (lexemeAt c cs).body) (Cursor.advanceAll_append _ _ _).symm
    refine ⟨pre.length :: offs, ?_⟩
    rw [scanFrom, if_neg hblank]
    have ht := tokenAt_append file (lexemeAt c cs).lexeme pre (c :: (lexemeAt c cs).body)
      (lexemeAt c cs).rest (List.cons_ne_nil _ _)
    rw [Cursor.advanceAll_append] at ht
    simp only [List.append_assoc, List.cons_append, lexemeAt_body_append] at ht
    refine Tiles.cons ht ?_
    have hlen : pre.length + (String.ofList (c :: (lexemeAt c cs).body)).length =
        (pre ++ c :: (lexemeAt c cs).body).length := by
      simp only [String.length_ofList, List.length_append]
    rw [hlen]
    simpa only [List.append_assoc, List.cons_append, lexemeAt_body_append] using h

theorem scan_tiles (source file : String) :
    ∃ offs, Tiles file source.toList 0 (Token.scan source file) offs := by
  simpa [Token.scan] using scanFrom_tiles file ⟨1, 1⟩ source.toList [] rfl

/-- Scanned tokens lie over their source text: at increasing offsets each token's text is the run of
source characters there, with its two locations at the run's ends, and every character no run
covers is a blank other than a line feed. -/
theorem scan_spans (source file : String) :
    ∃ offs : List Nat,
      List.Forall₂ (TokenAt file source.toList) (Token.scan source file) offs ∧
      offs.Pairwise (· < ·) ∧
      ((Token.scan source file).zip offs).IsChain (fun a b => a.2 + a.1.text.length ≤ b.2) ∧
      (∀ q c, source.toList[q]? = some c →
        (∀ tp ∈ (Token.scan source file).zip offs, ¬ (tp.2 ≤ q ∧ q < tp.2 + tp.1.text.length)) →
        Text.isBlank c = true ∧ c ≠ '\n') ∧
      (Token.scan source file).IsChain (fun t u => t.last.before u.start = true) := by
  obtain ⟨offs, h⟩ := scanFrom_tiles file ⟨1, 1⟩ source.toList [] rfl
  rw [List.nil_append] at h
  exact ⟨offs, h.at_offsets, h.increasing, h.apart,
    fun q c hc hn => h.gaps q c (Nat.zero_le q) hc hn, h.ordered⟩

end Lc3Lint
