import Lc3Lint.Text.Printable
/-! Quoted text literals, as messages show a name or a value, with escapes for the quote, the
backslash and characters that are not printable. -/
namespace Lc3Lint.Text

def hexPadded (width n : Nat) : String :=
  let ds := Nat.toDigits 16 n
  String.ofList (List.replicate (width - ds.length) '0' ++ ds)

def escapeChar (q c : Char) : String :=
  if c = q ∨ c = '\\' then String.ofList ['\\', c]
  else if c = '\t' then "\\t"
  else if c = '\n' then "\\n"
  else if c = '\r' then "\\r"
  else if isPrintable c then c.toString
  else if c.toNat < 0x100 then "\\x" ++ hexPadded 2 c.toNat
  else if c.toNat < 0x10000 then "\\u" ++ hexPadded 4 c.toNat
  else "\\U" ++ hexPadded 8 c.toNat

def quoteFor (s : String) : Char :=
  if s.toList.contains '\'' && !s.toList.contains '"' then '"' else '\''

def quote (s : String) : String :=
  let q := quoteFor s
  q.toString ++ String.join (s.toList.map (escapeChar q)) ++ q.toString

example : quote "LOOP" = "'LOOP'" ∧ quote "it's" = "\"it's\"" ∧
    quote "a'\"" = "'a\\'\"'" ∧ quote "\x1b " = "'\\x1b\\xa0'" := by decide +kernel

end Lc3Lint.Text
