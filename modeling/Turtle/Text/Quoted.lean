import Turtle.Text.Printable

/-!
# Quoted text

A text is shown as a literal between quotes. The quote is `'` unless the text holds a `'` and no
`"`. Backslash and the chosen quote are escaped with a backslash; tab, line feed and carriage
return are `\t`, `\n`, `\r`; other characters that are not printable are written by their code
point in hex, as `\xhh`, `\uhhhh` or `\Uhhhhhhhh` by size; the rest stand as they are.
-/

namespace Turtle.Text

/-- `n` as `width` lower-case hex digits. -/
def hexDigits (width n : Nat) : List Char :=
  (List.range width).reverse.map fun i => Nat.digitChar (n / Nat.pow 16 i % 16)

/-- The written form of one character inside a literal quoted with `q`. -/
def escapeChar (q c : Char) : List Char :=
  if c == q || c == '\\' then ['\\', c]
  else if c == '\t' then ['\\', 't']
  else if c == '\n' then ['\\', 'n']
  else if c == '\r' then ['\\', 'r']
  else if c.toNat < 0x20 || c.toNat == 0x7F then '\\' :: 'x' :: hexDigits 2 c.toNat
  else if c.toNat < 0x7F || isPrintable c then [c]
  else if c.toNat ≤ 0xFF then '\\' :: 'x' :: hexDigits 2 c.toNat
  else if c.toNat ≤ 0xFFFF then '\\' :: 'u' :: hexDigits 4 c.toNat
  else '\\' :: 'U' :: hexDigits 8 c.toNat

/-- The quote a text is written between. -/
def quoteFor (s : String) : Char :=
  if s.contains '\x27' && !s.contains '"' then '"' else '\x27'

/-- The text as a quoted literal. -/
def quoted (s : String) : String :=
  let q := quoteFor s
  String.ofList (q :: s.toList.flatMap (escapeChar q) ++ [q])

end Turtle.Text
