import Lc3Lint.Token
import Lc3Lint.Text.Blank
import Lc3Lint.Text.CaseMap
/-! Scanning text into tokens. Blanks other than the line feed separate tokens; the first character
decides the class, and keywords are matched on the full upper case of a word. -/
namespace Lc3Lint

structure Cursor where
  line : Nat
  column : Nat
  deriving DecidableEq, Repr

namespace Cursor

def advance (p : Cursor) (c : Char) : Cursor :=
  if c = '\n' then ⟨p.line + 1, 1⟩ else ⟨p.line, p.column + 1⟩

def advanceAll (p : Cursor) (cs : List Char) : Cursor := cs.foldl advance p

def toLocation (p : Cursor) (file : String) : Location := ⟨file, p.line, p.column⟩

end Cursor

def isWordChar (c : Char) : Bool := !Text.isBlank c && c != ','

def DirectiveWord.ofName (name : List Char) : DirectiveWord :=
  let u := Text.upper (String.ofList name)
  match Directive.ofKeyword? u with
  | some d => .known d
  | none => .unknown u

/-- A word by its upper case: a branch when `BR` is followed by the flags N, Z and P only, then
an opcode, a trap routine or a register keyword, and otherwise a label spelled as written. -/
def Lexeme.ofWord (w : List Char) : Lexeme :=
  let u := (Text.upper (String.ofList w)).toList
  if u.take 2 = ['B', 'R'] ∧ (u.drop 2).all (fun c => c = 'N' ∨ c = 'Z' ∨ c = 'P') then
    .opcode (.branch (BranchCondition.ofSuffix (u.drop 2)))
  else
    let u := String.ofList u
    match Opcode.ofKeyword? u, TrapRoutine.ofKeyword? u, Register.ofKeyword? u with
    | some op, _, _ => .opcode (.plain op)
    | none, some r, _ => .trapRoutine r
    | none, none, some r => .register r
    | none, none, none => .label (String.ofList w)

structure Lexed where
  lexeme : Lexeme
  body : List Char
  rest : List Char

/-- The token that starts with `c`, a character that is not a blank other than a line feed,
followed by the text `cs`. -/
def lexemeAt (c : Char) (cs : List Char) : Lexed :=
  if c = '\n' then ⟨.newline, [], cs⟩
  else if c = ',' then ⟨.comma, [], cs⟩
  else if c = '"' then
    let body := cs.takeWhile (· != '"')
    match cs.dropWhile (· != '"') with
    | '"' :: r => ⟨.string (String.ofList body), body ++ ['"'], r⟩
    | after => ⟨.string (String.ofList body), body, after⟩
  else if c = ';' then
    let body := cs.takeWhile (· != '\n')
    ⟨.comment (String.ofList body), body, cs.dropWhile (· != '\n')⟩
  else if c = '#' ∨ c = 'x' then
    let digits := cs.takeWhile isWordChar
    ⟨.number ⟨if c = '#' then .decimal else .hex, String.ofList digits⟩, digits,
      cs.dropWhile isWordChar⟩
  else if c = '.' then
    let name := cs.takeWhile (fun c => !Text.isBlank c)
    ⟨.directive (DirectiveWord.ofName name), name, cs.dropWhile (fun c => !Text.isBlank c)⟩
  else
    let word := cs.takeWhile isWordChar
    ⟨Lexeme.ofWord (c :: word), word, cs.dropWhile isWordChar⟩

theorem lexemeAt_body_append (c : Char) (cs : List Char) :
    (lexemeAt c cs).body ++ (lexemeAt c cs).rest = cs := by
  unfold lexemeAt
  split
  · rfl
  split
  · rfl
  split
  · have h := List.takeWhile_append_dropWhile (p := (· != '"')) (l := cs)
    generalize cs.dropWhile (· != '"') = after at h ⊢
    cases after with
    | nil => exact h
    | cons d r => by_cases hd : d = '"' <;> simp_all
  split
  · exact List.takeWhile_append_dropWhile
  split
  · exact List.takeWhile_append_dropWhile
  split
  · exact List.takeWhile_append_dropWhile
  · exact List.takeWhile_append_dropWhile

theorem lexemeAt_rest_length (c : Char) (cs : List Char) :
    (lexemeAt c cs).rest.length ≤ cs.length := by
  have h := congrArg List.length (lexemeAt_body_append c cs)
  simp only [List.length_append] at h
  omega

def scanFrom (file : String) (p : Cursor) : List Char → List Token
  | [] => []
  | c :: cs =>
    if c != '\n' && Text.isBlank c then scanFrom file (p.advance c) cs
    else
      let l := lexemeAt c cs
      let text := c :: l.body
      ⟨l.lexeme, p.toLocation file, (p.advanceAll text.dropLast).toLocation file, String.ofList text⟩ ::
        scanFrom file (p.advanceAll text) l.rest
termination_by cs => cs.length
decreasing_by
  · simp
  · have := lexemeAt_rest_length c cs
    simp only [List.length_cons]
    omega

def Token.scan (source file : String) : List Token := scanFrom file ⟨1, 1⟩ source.toList

end Lc3Lint
