import Lc3Lint.Text.Quoted
/-! Strict UTF-8 decoding with the cause and the span of the first failure. -/
namespace Lc3Lint.Text

inductive Utf8Fault where
  | invalidStart
  | invalidContinuation
  | unexpectedEnd
  deriving DecidableEq, Repr

def Utf8Fault.reason : Utf8Fault → String
  | .invalidStart => "invalid start byte"
  | .invalidContinuation => "invalid continuation byte"
  | .unexpectedEnd => "unexpected end of data"

structure Utf8Error where
  fault : Utf8Fault
  position : Nat
  length : Nat
  first : UInt8
  deriving DecidableEq, Repr

/-- The message of a decoding failure. One byte is named by its value, several by their span. -/
def Utf8Error.message (e : Utf8Error) : String :=
  if e.length = 1 then
    s!"'utf-8' codec can't decode byte 0x{hexPadded 2 e.first.toNat} in position {e.position}: {e.fault.reason}"
  else
    s!"'utf-8' codec can't decode bytes in position {e.position}-{e.position + e.length - 1}: {e.fault.reason}"

def isContinuation (b : UInt8) : Bool := 0x80 ≤ b && b < 0xC0

def secondOfThreeOk (b c : UInt8) : Bool :=
  isContinuation c && !(b == 0xE0 && c < 0xA0) && !(b == 0xED && 0xA0 ≤ c)

def secondOfFourOk (b c : UInt8) : Bool :=
  isContinuation c && !(b == 0xF0 && c < 0x90) && !(b == 0xF4 && 0x90 ≤ c)

def payload (c : UInt8) : Nat := c.toNat % 64

def decodeFrom : List UInt8 → Nat → List Char → Except Utf8Error (List Char)
  | [], _, acc => .ok acc.reverse
  | b :: rest, pos, acc =>
    let fail (fault : Utf8Fault) (length : Nat) : Except Utf8Error (List Char) :=
      .error ⟨fault, pos, length, b⟩
    if b < 0x80 then decodeFrom rest (pos + 1) (Char.ofNat b.toNat :: acc)
    else if b < 0xC2 then fail .invalidStart 1
    else if b < 0xE0 then
      match rest with
      | [] => fail .unexpectedEnd 1
      | c :: rest' =>
        if isContinuation c then
          decodeFrom rest' (pos + 2) (Char.ofNat ((b.toNat % 32) * 64 + payload c) :: acc)
        else fail .invalidContinuation 1
    else if b < 0xF0 then
      match rest with
      | [] => fail .unexpectedEnd 1
      | [c] => if secondOfThreeOk b c then fail .unexpectedEnd 2 else fail .invalidContinuation 1
      | c :: d :: rest' =>
        if !secondOfThreeOk b c then fail .invalidContinuation 1
        else if !isContinuation d then fail .invalidContinuation 2
        else
          decodeFrom rest' (pos + 3)
            (Char.ofNat ((b.toNat % 16) * 4096 + payload c * 64 + payload d) :: acc)
    else if b < 0xF5 then
      match rest with
      | [] => fail .unexpectedEnd 1
      | [c] => if secondOfFourOk b c then fail .unexpectedEnd 2 else fail .invalidContinuation 1
      | [c, d] =>
        if !secondOfFourOk b c then fail .invalidContinuation 1
        else if !isContinuation d then fail .invalidContinuation 2
        else fail .unexpectedEnd 3
      | c :: d :: e :: rest' =>
        if !secondOfFourOk b c then fail .invalidContinuation 1
        else if !isContinuation d then fail .invalidContinuation 2
        else if !isContinuation e then fail .invalidContinuation 3
        else
          decodeFrom rest' (pos + 4)
            (Char.ofNat ((b.toNat % 8) * 262144 + payload c * 4096 + payload d * 64 + payload e) :: acc)
    else fail .invalidStart 1

/-- Decodes UTF-8 bytes strictly; a byte order mark is kept as a character. -/
def decodeUtf8 (bytes : List UInt8) : Except Utf8Error String :=
  (decodeFrom bytes 0 []).map String.ofList

def unifyLineEnds : List Char → List Char
  | '\r' :: '\n' :: rest => '\n' :: unifyLineEnds rest
  | '\r' :: rest => '\n' :: unifyLineEnds rest
  | c :: rest => c :: unifyLineEnds rest
  | [] => []

example : (decodeUtf8 [0x52, 0xC3, 0xA9]).toOption = some "R\u00E9" := by decide +kernel

example : (match decodeUtf8 [0x52, 0x45, 0x54, 0x0A, 0x80] with
    | .error e => e.message | .ok _ => "") =
    "'utf-8' codec can't decode byte 0x80 in position 4: invalid start byte" := by decide +kernel

example : (match decodeUtf8 [0x41, 0xE2, 0x82] with
    | .error e => e.message | .ok _ => "") =
    "'utf-8' codec can't decode bytes in position 1-2: unexpected end of data" := by decide +kernel

end Lc3Lint.Text
