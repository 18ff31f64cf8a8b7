import Lc3Lint.Text.Integer
/-! Number literals as written: a radix marker (`#` decimal, `x` hexadecimal) and the raw digits,
read only when a check needs the value. -/
namespace Lc3Lint

inductive Radix where
  | hex | decimal
  deriving DecidableEq, Repr

namespace Radix

def marker : Radix → Char
  | hex => 'x' | decimal => '#'

def base : Radix → Nat
  | hex => 16 | decimal => 10

def adjective : Radix → String
  | hex => "hex" | decimal => "decimal"

def digitValue? (r : Radix) (c : Char) : Option Nat :=
  let v? :=
    if '0' ≤ c ∧ c ≤ '9' then some (c.toNat - '0'.toNat)
    else if 'a' ≤ c ∧ c ≤ 'f' then some (c.toNat - 'a'.toNat + 10)
    else if 'A' ≤ c ∧ c ≤ 'F' then some (c.toNat - 'A'.toNat + 10)
    else none
  v?.filter (· < r.base)

def render (r : Radix) (v : Int) : String :=
  match r with
  | hex =>
    "x" ++ (if v < 0 then "-" else "") ++ String.ofList ((Nat.toDigits 16 v.natAbs).map Char.toUpper)
  | decimal => "#" ++ toString v

/-- A field bound as messages write it, in the radix of the literal that broke it. A decimal of more
than `Text.digitLimit` digits is refused with the limit's message. -/
def showBound (r : Radix) (v : Int) : Except String String :=
  match r with
  | hex => .ok (hex.render v)
  | decimal => match Text.showInteger v with
    | .ok digits => .ok ("#" ++ digits)
    | .error fault => .error (fault.message "")

end Radix

structure Numeral where
  radix : Radix
  digits : String
  deriving DecidableEq, Repr

namespace Numeral

def text (n : Numeral) : String := n.radix.marker.toString ++ n.digits

def splitSign (cs : List Char) : Bool × List Char :=
  match cs with
  | '-' :: rest => (true, rest)
  | '+' :: rest => (false, rest)
  | rest => (false, rest)

def positional (r : Radix) (cs : List Char) : Option Nat :=
  cs.foldlM (fun acc c => (r.digitValue? c).map fun d => acc * r.base + d) 0

def value? (n : Numeral) : Option Int :=
  let (negative, ds) := splitSign n.digits.toList
  if ds.isEmpty then none
  else (positional n.radix ds).map fun v => if negative then -(v : Int) else v

def isWellFormed (n : Numeral) : Bool := n.value?.isSome

def malformedMessage (n : Numeral) : String :=
  s!"invalid {n.radix.adjective} literal {Text.quote n.text}"

/-- The value of the literal as a check reads it: a malformed literal is refused, and so is a decimal
one of more than `Text.digitLimit` digits. Hexadecimal digits are read without bound. -/
def toInt (n : Numeral) : Except String Int :=
  match n.value? with
  | none => .error n.malformedMessage
  | some v =>
    let count := (splitSign n.digits.toList).2.length
    if n.radix = .decimal ∧ Text.digitLimit < count then
      .error ((Text.IntegerFault.tooManyDigits count).message n.digits)
    else .ok v

theorem toInt_eq_value (n : Numeral) (v : Int) (h : n.toInt = .ok v) : n.value? = some v := by
  unfold toInt at h
  split at h
  · simp at h
  · rename_i w hw
    dsimp only at h
    split at h
    · simp at h
    · simp only [Except.ok.injEq] at h
      rw [hw, h]

example : (Numeral.mk .hex "-1F").value? = some (-31) ∧ (Numeral.mk .decimal "+3").value? = some 3 ∧
    (Numeral.mk .decimal "1F").value? = none ∧ (Numeral.mk .hex "").value? = none ∧
    (Numeral.mk .hex "-").value? = none := by decide

example : (Radix.hex.showBound (-256)).toOption = some "x-100" ∧
    (Radix.decimal.showBound (-16)).toOption = some "#-16" ∧
    (Radix.hex.showBound 255).toOption = some "xFF" := by decide +kernel

end Numeral

end Lc3Lint
