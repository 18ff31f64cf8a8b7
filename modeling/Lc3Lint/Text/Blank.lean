/-! Blank characters: Unicode white space and the information separators U+001C to U+001F. -/
namespace Lc3Lint.Text

/-- Tab to carriage return, U+001C to U+001F, space, next line, no-break space, ogham space mark,
U+2000 to U+200A, line and paragraph separators, U+202F, U+205F and ideographic space. -/
def isBlank (c : Char) : Bool :=
  let n := c.toNat
  (0x09 ≤ n && n ≤ 0x0D) || (0x1C ≤ n && n ≤ 0x20) || n == 0x85 || n == 0xA0 || n == 0x1680 ||
    (0x2000 ≤ n && n ≤ 0x200A) || n == 0x2028 || n == 0x2029 || n == 0x202F || n == 0x205F ||
    n == 0x3000

def trimBlank (s : String) : String :=
  String.ofList ((s.toList.dropWhile isBlank).reverse.dropWhile isBlank).reverse

example : isBlank '\n' = true ∧ isBlank '\x1c' = true ∧ isBlank '\u200B' = false ∧
    isBlank '\uFEFF' = false := by decide

end Lc3Lint.Text
