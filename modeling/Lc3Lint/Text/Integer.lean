import Lc3Lint.Text.Blank
import Lc3Lint.Text.Digit
import Lc3Lint.Text.Quoted
/-! Decimal integers in free text, as settings are written: blanks, a sign, digits of any script
with single underscores between them. Conversions are bounded by `digitLimit` digits both ways. -/
namespace Lc3Lint.Text

def digitLimit : Nat := 4300

inductive IntegerFault where
  | malformed
  | tooManyDigits (count : Nat)
  | tooLongToShow
  deriving DecidableEq, Repr

/-- The message for a failed conversion of `text`: a malformed text is quoted, cut to 200
characters. -/
def IntegerFault.message (text : String) : IntegerFault → String
  | .malformed =>
    s!"invalid literal for int() with base 10: {String.ofList ((quote text).toList.take 200)}"
  | .tooManyDigits count =>
    s!"Exceeds the limit ({digitLimit} digits) for integer string conversion: value has {count} digits; use sys.set_int_max_str_digits() to increase the limit"
  | .tooLongToShow =>
    s!"Exceeds the limit ({digitLimit} digits) for integer string conversion; use sys.set_int_max_str_digits() to increase the limit"

def asciiStandIn (c : Char) : Option Char :=
  if c.toNat < 0x7F then some c
  else if isBlank c then some ' '
  else (decimalValue? c).map fun d => Char.ofNat (0x30 + d)

/-- The ASCII text that a text stands for: each character's stand-in, up to the first character
that has none, which becomes a `?` and ends the text. -/
def asciiStandIns : List Char → List Char
  | [] => []
  | c :: rest => match asciiStandIn c with
    | some a => a :: asciiStandIns rest
    | none => ['?']

def isAsciiBlank (c : Char) : Bool := c = ' ' || (0x09 ≤ c.toNat && c.toNat ≤ 0x0D)

def isGroupedDigits (cs : List Char) : Bool :=
  (cs.head?.map Char.isDigit).getD false && (cs.getLast?.map Char.isDigit).getD false &&
    !(cs.zip cs.tail).any (fun p => p.1 == '_' && p.2 == '_')

def groupedValue (cs : List Char) : Nat :=
  (cs.filter Char.isDigit).foldl (fun acc c => acc * 10 + (c.toNat - 0x30)) 0

/-- Reads a signed decimal from ASCII text, blanks around it allowed. A run of digits that is
grouped well but longer than `digitLimit` is refused before the text after it is looked at. -/
def scanAsciiInteger (cs : List Char) : Except IntegerFault Int :=
  let cs := cs.dropWhile isAsciiBlank
  let (negative, cs) := match cs with
    | '+' :: r => (false, r)
    | '-' :: r => (true, r)
    | r => (false, r)
  let body := cs.takeWhile (fun c => c.isDigit || c == '_')
  let rest := cs.dropWhile (fun c => c.isDigit || c == '_')
  let count := (body.filter Char.isDigit).length
  if !isGroupedDigits body then .error .malformed
  else if digitLimit < count then .error (.tooManyDigits count)
  else if !(rest.dropWhile isAsciiBlank).isEmpty then .error .malformed
  else
    let n := groupedValue body
    .ok (if negative then -(n : Int) else n)

def parseInteger (s : String) : Except IntegerFault Int :=
  scanAsciiInteger (asciiStandIns s.toList)

def readInteger? (s : String) : Option Int := (parseInteger s).toOption

def showInteger (v : Int) : Except IntegerFault String :=
  if Nat.pow 10 digitLimit ≤ v.natAbs then .error .tooLongToShow else .ok (toString v)

example : readInteger? " 12 " = some 12 ∧ readInteger? "-0" = some 0 ∧ readInteger? "1_000" = some 1000 ∧
    readInteger? "1__0" = none ∧ readInteger? "_1" = none ∧ readInteger? "1_" = none ∧
    readInteger? "+ 5" = none ∧ readInteger? "" = none ∧ readInteger? "\x1c5" = none ∧
    readInteger? "\u0085 5" = some 5 ∧ readInteger? "١٢" = some 12 := by decide +kernel

end Lc3Lint.Text
