import Lc3Lint.Proofs.TokenSpans
import Lc3Lint.Proofs.ScanLines
/-! What a token's text says: the lexeme of a scanned token is read off its text alone, and a text
that spells a lexeme scans as exactly that one token. -/
namespace Lc3Lint

section Keywords

theorem find?_name_eq_some_iff {α : Type} {name : α → String} (hinj : Function.Injective name)
    {l : List α} {u : String} {x : α} :
    l.find? (fun y => name y == u) = some x ↔ x ∈ l ∧ name x = u := by
  constructor
  · intro h
    exact ⟨List.mem_of_find?_eq_some h, by simpa using List.find?_some h⟩
  · rintro ⟨hx, rfl⟩
    cases h : l.find? (fun y => name y == name x) with
    | none =>
      have := List.find?_eq_none.1 h x hx
      simp at this
    | some y =>
      have hy := List.find?_some h
      simp only [beq_iff_eq] at hy
      rw [hinj hy]

theorem Opcode.name_injective : Function.Injective Opcode.name := by
  intro a b h
  cases a <;> cases b <;> simp_all [Opcode.name]

theorem TrapRoutine.name_injective : Function.Injective TrapRoutine.name := by
  intro a b h
  cases a <;> cases b <;> simp_all [TrapRoutine.name]

theorem Directive.name_injective : Function.Injective Directive.name := by
  intro a b h
  cases a <;> cases b <;> simp_all [Directive.name]

theorem Register.name_injective : Function.Injective Register.name := by
  rintro ⟨i⟩ ⟨j⟩ h
  have hnames : ∀ i j : Fin 8, (Register.mk i).name = (Register.mk j).name → i = j := by
    decide +kernel
  rw [hnames i j h]

theorem Opcode.ofKeyword?_eq_some_iff {u : String} {op : Opcode} :
    Opcode.ofKeyword? u = some op ↔ op ≠ .br ∧ op.name = u := by
  rw [Opcode.ofKeyword?, find?_name_eq_some_iff Opcode.name_injective, List.mem_filter]
  cases op <;> simp [Opcode.all]

theorem TrapRoutine.ofKeyword?_eq_some_iff {u : String} {r : TrapRoutine} :
    TrapRoutine.ofKeyword? u = some r ↔ r.name = u := by
  rw [TrapRoutine.ofKeyword?, find?_name_eq_some_iff TrapRoutine.name_injective]
  cases r <;> simp [TrapRoutine.all]

theorem Register.ofKeyword?_eq_some_iff {u : String} {r : Register} :
    Register.ofKeyword? u = some r ↔ r.name = u := by
  rw [Register.ofKeyword?, find?_name_eq_some_iff Register.name_injective]
  simp

theorem Directive.ofKeyword?_eq_some_iff {u : String} {d : Directive} :
    Directive.ofKeyword? u = some d ↔ d.name = u := by
  rw [Directive.ofKeyword?, find?_name_eq_some_iff Directive.name_injective]
  cases d <;> simp [Directive.all]

theorem Opcode.ofKeyword?_eq_none_iff {u : String} :
    Opcode.ofKeyword? u = none ↔ ∀ op : Opcode, op ≠ .br → u ≠ op.name := by
  simp only [Option.eq_none_iff_forall_ne_some, ne_eq, Opcode.ofKeyword?_eq_some_iff, not_and]
  exact forall_congr' fun op => imp_congr_right fun _ => eq_comm.not

theorem TrapRoutine.ofKeyword?_eq_none_iff {u : String} :
    TrapRoutine.ofKeyword? u = none ↔ ∀ r : TrapRoutine, u ≠ r.name := by
  simp only [Option.eq_none_iff_forall_ne_some, ne_eq, TrapRoutine.ofKeyword?_eq_some_iff]
  exact forall_congr' fun r => eq_comm.not

theorem Register.ofKeyword?_eq_none_iff {u : String} :
    Register.ofKeyword? u = none ↔ ∀ r : Register, u ≠ r.name := by
  simp only [Option.eq_none_iff_forall_ne_some, ne_eq, Register.ofKeyword?_eq_some_iff]
  exact forall_congr' fun r => eq_comm.not

theorem Directive.ofKeyword?_eq_none_iff {u : String} :
    Directive.ofKeyword? u = none ↔ ∀ d : Directive, u ≠ d.name := by
  simp only [Option.eq_none_iff_forall_ne_some, ne_eq, Directive.ofKeyword?_eq_some_iff]
  exact forall_congr' fun d => eq_comm.not

theorem Opcode.name_take_two {op : Opcode} (h : op ≠ .br) : op.name.toList.take 2 ≠ ['B', 'R'] := by
  revert h
  cases op <;> decide

theorem TrapRoutine.name_take_two (r : TrapRoutine) : r.name.toList.take 2 ≠ ['B', 'R'] := by
  cases r <;> decide

theorem Register.name_take_two (r : Register) : r.name.toList.take 2 ≠ ['B', 'R'] := by
  obtain ⟨i⟩ := r
  revert i
  decide

theorem TrapRoutine.name_ne_opcode (r : TrapRoutine) (op : Opcode) : r.name ≠ op.name := by
  cases r <;> cases op <;> decide

theorem Register.name_ne_opcode (r : Register) (op : Opcode) : r.name ≠ op.name := by
  obtain ⟨i⟩ := r
  revert i
  cases op <;> decide

theorem Register.name_ne_trapRoutine (r : Register) (t : TrapRoutine) : r.name ≠ t.name := by
  obtain ⟨i⟩ := r
  revert i
  cases t <;> decide

end Keywords

section Reader

variable (cs : List Char)

theorem lexemeAt_lineFeed : lexemeAt '\n' cs = ⟨.newline, [], cs⟩ := by
  simp [lexemeAt]

theorem lexemeAt_comma : lexemeAt ',' cs = ⟨.comma, [], cs⟩ := by
  simp [lexemeAt]

theorem lexemeAt_quote_closed {b r : List Char} (hb : '"' ∉ b) :
    lexemeAt '"' (b ++ '"' :: r) = ⟨.string (String.ofList b), b ++ ['"'], r⟩ := by
  have hrun : ∀ a ∈ b, (a != '"') = true := fun a ha => by
    simpa using ne_of_mem_of_not_mem ha hb
  simp [lexemeAt, List.takeWhile_append_of_pos hrun, List.dropWhile_append_of_pos hrun]

theorem lexemeAt_quote_unclosed (h : '"' ∉ cs) :
    lexemeAt '"' cs = ⟨.string (String.ofList cs), cs, []⟩ :=
  lexemeAt_quote_open (List.dropWhile_eq_nil_iff.2 fun a ha => by
    simpa using ne_of_mem_of_not_mem ha h)

theorem lexemeAt_semicolon :
    lexemeAt ';' cs = ⟨.comment (String.ofList (cs.takeWhile (· != '\n'))),
      cs.takeWhile (· != '\n'), cs.dropWhile (· != '\n')⟩ := by
  simp [lexemeAt]

theorem lexemeAt_marker (r : Radix) :
    lexemeAt r.marker cs = ⟨.number ⟨r, String.ofList (cs.takeWhile isWordChar)⟩,
      cs.takeWhile isWordChar, cs.dropWhile isWordChar⟩ := by
  cases r <;> simp [lexemeAt, Radix.marker]

theorem lexemeAt_dot :
    lexemeAt '.' cs = ⟨.directive (DirectiveWord.ofName (cs.takeWhile (fun c => !Text.isBlank c))),
      cs.takeWhile (fun c => !Text.isBlank c), cs.dropWhile (fun c => !Text.isBlank c)⟩ := by
  simp [lexemeAt]

def opensClass : List Char := ['\n', ',', '"', ';', '#', 'x', '.']

theorem lexemeAt_word {c : Char} (hc : c ∉ opensClass) :
    lexemeAt c cs = ⟨Lexeme.ofWord (c :: cs.takeWhile isWordChar), cs.takeWhile isWordChar,
      cs.dropWhile isWordChar⟩ := by
  simp only [opensClass, List.mem_cons, List.not_mem_nil, or_false, not_or] at hc
  obtain ⟨h1, h2, h3, h4, h5, h6, h7⟩ := hc
  simp only [lexemeAt, if_neg h1, if_neg h2, if_neg h3, if_neg h4, h5, h6, or_self, if_false,
    if_neg h7]

end Reader

def stringBody (text : List Char) : List Char :=
  if 2 ≤ text.length ∧ text.getLast? = some '"' then (text.drop 1).dropLast else text.drop 1

structure IsWordText (text : List Char) : Prop where
  opens : ∃ c w, text = c :: w ∧ c ∉ opensClass
  word_chars : ∀ c ∈ text, isWordChar c = true

inductive WordSpells (w : List Char) (u : String) : Lexeme → Prop
  | branch (v : List Char) (hu : u.toList = 'B' :: 'R' :: v)
      (hv : ∀ c ∈ v, c = 'N' ∨ c = 'Z' ∨ c = 'P') :
      WordSpells w u (.opcode (.branch
        (if v = [] then ⟨true, true, true⟩ else ⟨'N' ∈ v, 'Z' ∈ v, 'P' ∈ v⟩)))
  | opcode (op : Opcode) (hop : op ≠ .br) (hu : u = op.name) : WordSpells w u (.opcode (.plain op))
  | trapRoutine (r : TrapRoutine) (hu : u = r.name) : WordSpells w u (.trapRoutine r)
  | register (r : Register) (hu : u = r.name) : WordSpells w u (.register r)
  | label (hbr : ¬ ∃ v, u.toList = 'B' :: 'R' :: v ∧ ∀ c ∈ v, c = 'N' ∨ c = 'Z' ∨ c = 'P')
      (hop : ∀ op : Opcode, op ≠ .br → u ≠ op.name) (htrap : ∀ r : TrapRoutine, u ≠ r.name)
      (hreg : ∀ r : Register, u ≠ r.name) : WordSpells w u (.label (String.ofList w))

/-- The lexeme a token's text spells, read off the text alone: the first character picks the class,
and a word is read by its full upper case as `WordSpells` says. -/
inductive Spells (text : List Char) : Lexeme → Prop
  | newline (h : text = ['\n']) : Spells text .newline
  | comma (h : text = [',']) : Spells text .comma
  | comment (body : List Char) (h : text = ';' :: body) (hb : '\n' ∉ body) :
      Spells text (.comment (String.ofList body))
  | string (h : text.head? = some '"') (hb : '"' ∉ stringBody text) :
      Spells text (.string (String.ofList (stringBody text)))
  | number (r : Radix) (digits : List Char) (h : text = r.marker :: digits)
      (hd : ∀ c ∈ digits, isWordChar c = true) : Spells text (.number ⟨r, String.ofList digits⟩)
  | knownDirective (name : List Char) (d : Directive) (h : text = '.' :: name)
      (hn : ∀ c ∈ name, Text.isBlank c = false) (hd : Text.upper (String.ofList name) = d.name) :
      Spells text (.directive (.known d))
  | unknownDirective (name : List Char) (h : text = '.' :: name)
      (hn : ∀ c ∈ name, Text.isBlank c = false)
      (hd : ∀ d : Directive, Text.upper (String.ofList name) ≠ d.name) :
      Spells text (.directive (.unknown (Text.upper (String.ofList name))))
  | word {l : Lexeme} (hw : IsWordText text) (h : WordSpells text (Text.upper (String.ofList text)) l) :
      Spells text l

theorem BranchCondition.ofSuffix_eq (v : List Char) :
    BranchCondition.ofSuffix v =
      if v = [] then ⟨true, true, true⟩ else ⟨'N' ∈ v, 'Z' ∈ v, 'P' ∈ v⟩ := by
  cases v <;> simp [BranchCondition.ofSuffix]

theorem branch_test_iff (u : List Char) :
    (u.take 2 = ['B', 'R'] ∧ (u.drop 2).all (fun c => c = 'N' ∨ c = 'Z' ∨ c = 'P')) ↔
      ∃ v, u = 'B' :: 'R' :: v ∧ ∀ c ∈ v, c = 'N' ∨ c = 'Z' ∨ c = 'P' := by
  constructor
  · rintro ⟨htake, hall⟩
    refine ⟨u.drop 2, ?_, by simpa using hall⟩
    rw [← List.take_append_drop 2 u, htake]
    rfl
  · rintro ⟨v, rfl, hv⟩
    simpa using hv

theorem Lexeme.ofWord_spells (w : List Char) :
    WordSpells w (Text.upper (String.ofList w)) (Lexeme.ofWord w) := by
  unfold Lexeme.ofWord
  dsimp only
  generalize Text.upper (String.ofList w) = u
  rw [String.ofList_toList]
  split
  · rename_i hb
    obtain ⟨v, hu, hv⟩ := (branch_test_iff _).1 hb
    rw [hu, List.drop_succ_cons, List.drop_succ_cons, List.drop_zero, BranchCondition.ofSuffix_eq]
    exact .branch v hu hv
  · rename_i hb
    split
    · rename_i op hop
      obtain ⟨hne, hname⟩ := Opcode.ofKeyword?_eq_some_iff.1 hop
      exact .opcode op hne hname.symm
    · rename_i r _ htrap
      exact .trapRoutine r (TrapRoutine.ofKeyword?_eq_some_iff.1 htrap).symm
    · rename_i r _ _ hreg
      exact .register r (Register.ofKeyword?_eq_some_iff.1 hreg).symm
    · rename_i hop htrap hreg
      exact .label (fun h => hb ((branch_test_iff _).2 h)) (Opcode.ofKeyword?_eq_none_iff.1 hop)
        (TrapRoutine.ofKeyword?_eq_none_iff.1 htrap) (Register.ofKeyword?_eq_none_iff.1 hreg)

theorem not_branch_of_take_two {u : List Char} (h : u.take 2 ≠ ['B', 'R']) :
    ¬ (u.take 2 = ['B', 'R'] ∧ (u.drop 2).all (fun c => c = 'N' ∨ c = 'Z' ∨ c = 'P')) :=
  fun hb => h hb.1

theorem WordSpells.ofWord_eq {w : List Char} {l : Lexeme}
    (h : WordSpells w (Text.upper (String.ofList w)) l) : Lexeme.ofWord w = l := by
  unfold Lexeme.ofWord
  dsimp only
  generalize Text.upper (String.ofList w) = u at h ⊢
  rw [String.ofList_toList]
  cases h with
  | branch v hu hv =>
    rw [if_pos ((branch_test_iff _).2 ⟨v, hu, hv⟩), hu, List.drop_succ_cons, List.drop_succ_cons,
      List.drop_zero, BranchCondition.ofSuffix_eq]
  | opcode op hop hu =>
    subst hu
    rw [if_neg (not_branch_of_take_two (Opcode.name_take_two hop)),
      Opcode.ofKeyword?_eq_some_iff.2 ⟨hop, rfl⟩]
  | trapRoutine r hu =>
    subst hu
    rw [if_neg (not_branch_of_take_two (TrapRoutine.name_take_two r)),
      Opcode.ofKeyword?_eq_none_iff.2 fun op _ => TrapRoutine.name_ne_opcode r op,
      TrapRoutine.ofKeyword?_eq_some_iff.2 rfl]
  | register r hu =>
    subst hu
    rw [if_neg (not_branch_of_take_two (Register.name_take_two r)),
      Opcode.ofKeyword?_eq_none_iff.2 fun op _ => Register.name_ne_opcode r op,
      TrapRoutine.ofKeyword?_eq_none_iff.2 (Register.name_ne_trapRoutine r),
      Register.ofKeyword?_eq_some_iff.2 rfl]
  | label hbr hop htrap hreg =>
    rw [if_neg fun hb => hbr ((branch_test_iff _).1 hb), Opcode.ofKeyword?_eq_none_iff.2 hop,
      TrapRoutine.ofKeyword?_eq_none_iff.2 htrap, Register.ofKeyword?_eq_none_iff.2 hreg]

theorem Lexeme.ofWord_eq_iff (w : List Char) (l : Lexeme) :
    Lexeme.ofWord w = l ↔ WordSpells w (Text.upper (String.ofList w)) l :=
  ⟨fun h => h ▸ Lexeme.ofWord_spells w, WordSpells.ofWord_eq⟩

theorem DirectiveWord.ofName_known {name : List Char} {d : Directive}
    (h : Text.upper (String.ofList name) = d.name) : DirectiveWord.ofName name = .known d := by
  unfold DirectiveWord.ofName
  dsimp only
  rw [Directive.ofKeyword?_eq_some_iff.2 h.symm]

theorem DirectiveWord.ofName_unknown {name : List Char}
    (h : ∀ d : Directive, Text.upper (String.ofList name) ≠ d.name) :
    DirectiveWord.ofName name = .unknown (Text.upper (String.ofList name)) := by
  unfold DirectiveWord.ofName
  dsimp only
  rw [Directive.ofKeyword?_eq_none_iff.2 h]

theorem stringBody_quote (body : List Char) :
    stringBody ('"' :: body) = if body.getLast? = some '"' then body.dropLast else body := by
  cases body with
  | nil => simp [stringBody]
  | cons c cs => simp [stringBody, List.getLast?_cons_cons]

theorem Spells.head {text : List Char} {l : Lexeme} (h : Spells text l) :
    ∃ c body, text = c :: body ∧ (c != '\n' && Text.isBlank c) = false := by
  cases h with
  | newline h => exact ⟨'\n', [], h, by decide⟩
  | comma h => exact ⟨',', [], h, by decide⟩
  | comment body h _ => exact ⟨';', body, h, by decide⟩
  | string h _ =>
    obtain ⟨body, rfl⟩ : ∃ body, text = '"' :: body := by
      cases text with
      | nil => simp at h
      | cons c cs => exact ⟨cs, by simpa using h⟩
    exact ⟨'"', body, rfl, by decide⟩
  | number r digits h _ => exact ⟨r.marker, digits, h, by cases r <;> decide⟩
  | knownDirective name _ h _ _ => exact ⟨'.', name, h, by decide⟩
  | unknownDirective name h _ _ => exact ⟨'.', name, h, by decide⟩
  | word hw _ =>
    obtain ⟨c, w, rfl, -⟩ := hw.opens
    have hc := hw.word_chars c List.mem_cons_self
    simp only [isWordChar, Bool.and_eq_true, Bool.not_eq_true'] at hc
    exact ⟨c, w, rfl, by simp [hc.1]⟩

theorem run_whole {p : Char → Bool} {cs : List Char} (h : ∀ c ∈ cs, p c = true) :
    cs.takeWhile p = cs ∧ cs.dropWhile p = [] :=
  ⟨List.takeWhile_eq_self_iff.2 h, List.dropWhile_eq_nil_iff.2 h⟩

theorem lexemeAt_dot_name {name : List Char} (hn : ∀ c ∈ name, Text.isBlank c = false) :
    lexemeAt '.' name = ⟨.directive (DirectiveWord.ofName name), name, []⟩ := by
  have hrun := run_whole (p := fun c => !Text.isBlank c) fun a (ha : a ∈ name) => by
    simp [hn a ha]
  rw [lexemeAt_dot, hrun.1, hrun.2]

theorem Spells.lexemeAt_eq {c : Char} {body : List Char} {l : Lexeme} (h : Spells (c :: body) l) :
    lexemeAt c body = ⟨l, body, []⟩ := by
  cases h with
  | newline h =>
    obtain ⟨rfl, rfl⟩ := List.cons_eq_cons.1 h
    exact lexemeAt_lineFeed []
  | comma h =>
    obtain ⟨rfl, rfl⟩ := List.cons_eq_cons.1 h
    exact lexemeAt_comma []
  | comment b h hb =>
    obtain ⟨rfl, rfl⟩ := List.cons_eq_cons.1 h
    have hrun := run_whole (p := (· != '\n')) fun a ha => by simpa using ne_of_mem_of_not_mem ha hb
    rw [lexemeAt_semicolon, hrun.1, hrun.2]
  | string h hb =>
    obtain rfl : c = '"' := by simpa using h
    rw [stringBody_quote] at hb ⊢
    by_cases hq : body.getLast? = some '"'
    · -- the text closes: it is the value and a closing quote
      rw [if_pos hq] at hb ⊢
      have hsplit := List.dropLast_append_getLast? '"' hq
      rw [← hsplit, lexemeAt_quote_closed hb, hsplit]
    · rw [if_neg hq] at hb ⊢
      exact lexemeAt_quote_unclosed body hb
  | number r digits h hd =>
    obtain ⟨rfl, rfl⟩ := List.cons_eq_cons.1 h
    rw [lexemeAt_marker, (run_whole hd).1, (run_whole hd).2]
  | knownDirective name d h hn hd =>
    obtain ⟨rfl, rfl⟩ := List.cons_eq_cons.1 h
    rw [lexemeAt_dot_name hn, DirectiveWord.ofName_known hd]
  | unknownDirective name h hn hd =>
    obtain ⟨rfl, rfl⟩ := List.cons_eq_cons.1 h
    rw [lexemeAt_dot_name hn, DirectiveWord.ofName_unknown hd]
  | word hw hws =>
    obtain ⟨c', w, hcw, hc⟩ := hw.opens
    obtain ⟨rfl, rfl⟩ := List.cons_eq_cons.1 hcw
    have hrun := run_whole fun a ha => hw.word_chars a (List.mem_cons_of_mem _ ha)
    rw [lexemeAt_word body hc, hrun.1, hrun.2, WordSpells.ofWord_eq hws]

theorem Spells.unique {text : List Char} {l₁ l₂ : Lexeme} (h₁ : Spells text l₁)
    (h₂ : Spells text l₂) : l₁ = l₂ := by
  obtain ⟨c, body, rfl, -⟩ := h₁.head
  have h := h₁.lexemeAt_eq.symm.trans h₂.lexemeAt_eq
  simpa using h

theorem Spells.string_of_body {text body : List Char} (h : text.head? = some '"')
    (hb : stringBody text = body) (hq : '"' ∉ body) : Spells text (.string (String.ofList body)) := by
  subst hb
  exact .string h hq

theorem spells_quote (cs : List Char) :
    Spells ('"' :: (lexemeAt '"' cs).body) (lexemeAt '"' cs).lexeme := by
  by_cases hq : '"' ∈ cs
  · -- the string closes at the first quote of the rest
    obtain ⟨b, r, hb, rfl, -⟩ := List.exists_erase_eq hq
    rw [lexemeAt_quote_closed hb]
    exact Spells.string_of_body rfl (by simp [stringBody_quote]) hb
  · rw [lexemeAt_quote_unclosed cs hq]
    exact Spells.string_of_body rfl
      (by rw [stringBody_quote, if_neg fun h => hq (List.mem_of_getLast? h)]) hq

theorem spells_semicolon (cs : List Char) :
    Spells (';' :: (lexemeAt ';' cs).body) (lexemeAt ';' cs).lexeme := by
  rw [lexemeAt_semicolon]
  exact .comment _ rfl fun hn => by simpa using List.mem_takeWhile_imp hn

theorem spells_marker (r : Radix) (cs : List Char) :
    Spells (r.marker :: (lexemeAt r.marker cs).body) (lexemeAt r.marker cs).lexeme := by
  rw [lexemeAt_marker]
  exact .number _ _ rfl fun a ha => List.mem_takeWhile_imp ha

theorem spells_dot (cs : List Char) :
    Spells ('.' :: (lexemeAt '.' cs).body) (lexemeAt '.' cs).lexeme := by
  rw [lexemeAt_dot]
  have hn : ∀ a ∈ cs.takeWhile (fun c => !Text.isBlank c), Text.isBlank a = false :=
    fun a ha => by simpa using List.mem_takeWhile_imp ha
  -- the name is a known directive or it is not
  cases hd : Directive.ofKeyword? (Text.upper (String.ofList
      (cs.takeWhile fun c => !Text.isBlank c))) with
  | some d =>
    have hname := (Directive.ofKeyword?_eq_some_iff.1 hd).symm
    rw [DirectiveWord.ofName_known hname]
    exact .knownDirective _ d rfl hn hname
  | none =>
    have hname := Directive.ofKeyword?_eq_none_iff.1 hd
    rw [DirectiveWord.ofName_unknown hname]
    exact .unknownDirective _ rfl hn hname

theorem spells_word {c : Char} (cs : List Char) (hopen : c ∉ opensClass)
    (hc : isWordChar c = true) :
    Spells (c :: (lexemeAt c cs).body) (lexemeAt c cs).lexeme := by
  have hw : IsWordText (c :: cs.takeWhile isWordChar) := by
    refine ⟨⟨c, _, rfl, hopen⟩, fun a ha => ?_⟩
    rcases List.mem_cons.1 ha with rfl | ha
    · exact hc
    · exact List.mem_takeWhile_imp ha
  have hspells := Spells.word hw (Lexeme.ofWord_spells (c :: cs.takeWhile isWordChar))
  rw [lexemeAt_word cs hopen]
  dsimp only
  exact hspells

theorem lexemeAt_spells (c : Char) (cs : List Char) (hc : (c != '\n' && Text.isBlank c) = false) :
    Spells (c :: (lexemeAt c cs).body) (lexemeAt c cs).lexeme := by
  by_cases h1 : c = '\n'
  · subst h1
    rw [lexemeAt_lineFeed]
    exact .newline rfl
  by_cases h2 : c = ','
  · subst h2
    rw [lexemeAt_comma]
    exact .comma rfl
  by_cases h3 : c = '"'
  · exact h3 ▸ spells_quote cs
  by_cases h4 : c = ';'
  · exact h4 ▸ spells_semicolon cs
  by_cases h5 : c = '#'
  · exact h5 ▸ spells_marker .decimal cs
  by_cases h6 : c = 'x'
  · exact h6 ▸ spells_marker .hex cs
  by_cases h7 : c = '.'
  · exact h7 ▸ spells_dot cs
  -- any other character opens a word, and is neither a blank nor a comma
  have hopen : c ∉ opensClass := by simp [opensClass, h1, h2, h3, h4, h5, h6, h7]
  exact spells_word cs hopen (by simpa [isWordChar, h1, h2] using hc)

theorem Spells.scan {text : List Char} {l : Lexeme} (h : Spells text l) (file : String) :
    Token.scan (String.ofList text) file =
      [⟨l, ⟨file, 1, 1⟩, offsetLocation file text (text.length - 1), String.ofList text⟩] := by
  obtain ⟨c, body, rfl, hc⟩ := h.head
  rw [Token.scan, String.toList_ofList, scanFrom, if_neg (by simp [hc]), h.lexemeAt_eq]
  dsimp only
  rw [scanFrom, offsetLocation_eq (by simp), ← List.dropLast_eq_take]
  rfl

theorem exists_lexemeAt_of_mem_scanFrom {file : String} {p : Cursor} {cs : List Char} {t : Token}
    (ht : t ∈ scanFrom file p cs) :
    ∃ c rest, (c != '\n' && Text.isBlank c) = false ∧ t.lexeme = (lexemeAt c rest).lexeme ∧
      t.text = String.ofList (c :: (lexemeAt c rest).body) := by
  induction p, cs using scanFrom.induct with
  | case1 p => simp [scanFrom] at ht
  | case2 p c cs hblank ih =>
    rw [scanFrom, if_pos hblank] at ht
    exact ih ht
  | case3 p c cs hblank l text ih =>
    rw [scanFrom, if_neg hblank] at ht
    rcases List.mem_cons.1 ht with rfl | ht
    · exact ⟨c, cs, by simpa using hblank, rfl, rfl⟩
    · exact ih ht

theorem Spells.of_mem_scan {s file : String} {t : Token} (ht : t ∈ Token.scan s file) :
    Spells t.text.toList t.lexeme := by
  obtain ⟨c, rest, hc, hl, htext⟩ := exists_lexemeAt_of_mem_scanFrom ht
  rw [hl, htext, String.toList_ofList]
  exact lexemeAt_spells c rest hc

/-- Tokens are self-delimiting, and a token's lexeme is a function of its text. Scanning the text
of a scanned token alone gives back that token alone, now located from line 1 and column 1; its
text spells its lexeme; and it spells no other. -/
theorem token_text_self_delimiting (s file : String) (t : Token) (ht : t ∈ Token.scan s file) :
    Token.scan t.text file =
        [{ t with start := ⟨file, 1, 1⟩,
                  last := offsetLocation file t.text.toList (t.text.length - 1) }] ∧
      Spells t.text.toList t.lexeme ∧ ∀ l, Spells t.text.toList l → l = t.lexeme := by
  have hs := Spells.of_mem_scan ht
  refine ⟨?_, hs, fun l hl => hl.unique hs⟩
  have hscan := hs.scan file
  rw [String.ofList_toList, String.length_toList] at hscan
  rw [hscan]

theorem token_text_self_delimiting_second_line :
    (⟨.opcode (.branch ⟨true, true, false⟩), ⟨"f", 2, 3⟩, ⟨"f", 2, 6⟩, "brNz"⟩ : Token) ∈
        Token.scan "LOOP\n  brNz LOOP" "f" ∧
      Token.scan "brNz" "f" = [⟨.opcode (.branch ⟨true, true, false⟩), ⟨"f", 1, 1⟩,
        offsetLocation "f" "brNz".toList ("brNz".length - 1), "brNz"⟩] ∧
      Spells "brNz".toList (.opcode (.branch ⟨true, true, false⟩)) ∧
      ∀ l, Spells "brNz".toList l → l = .opcode (.branch ⟨true, true, false⟩) :=
  have h : (⟨.opcode (.branch ⟨true, true, false⟩), ⟨"f", 2, 3⟩, ⟨"f", 2, 6⟩, "brNz"⟩ : Token) ∈
      Token.scan "LOOP\n  brNz LOOP" "f" := by decide +kernel
  ⟨h, token_text_self_delimiting _ _ _ h⟩

end Lc3Lint
