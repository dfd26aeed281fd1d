/-!
# Blank characters

Two sets of blanks: the six ASCII blanks (`isAsciiBlank`) that are stripped around number text,
and the Unicode white space (`isSpace`), which number text reads as a plain space. The latter is
the characters of the space separator class and those whose bidirectional class is a segment,
paragraph or white-space separator.
-/

namespace Turtle.Text

/-- Space, tab, line feed, vertical tab, form feed and carriage return. -/
def isAsciiBlank (c : Char) : Bool :=
  c == ' ' || (0x09 ≤ c.toNat && c.toNat ≤ 0x0D)

/-- The code points of Unicode white space beyond the ASCII blanks. -/
def spaceCodes : List Nat :=
  [0x1C, 0x1D, 0x1E, 0x1F, 0x85, 0xA0, 0x1680, 0x2000, 0x2001, 0x2002, 0x2003, 0x2004, 0x2005,
   0x2006, 0x2007, 0x2008, 0x2009, 0x200A, 0x2028, 0x2029, 0x202F, 0x205F, 0x3000]

/-- Unicode white space (Unicode 14). -/
def isSpace (c : Char) : Bool :=
  isAsciiBlank c || spaceCodes.contains c.toNat

end Turtle.Text
