import Turtle.Number.Shortest
import Turtle.Text.Blank
import Turtle.Text.DecimalDigit

/-!
# Reading numbers from text

Text typed into the editor is read as a number by two grammars.

* First the text is brought to ASCII (`asciiDigits`): ASCII characters stay, Unicode white space
  becomes a space, a decimal digit of any script becomes its ASCII digit, and any other character
  ends the text as a `?`, which no grammar accepts.
* `readInteger?` accepts ASCII blanks around an optional sign and decimal digits, with single
  underscores between digits, and at most `integerDigitLimit` digits.
* `readDecimal?` accepts ASCII blanks around an optional sign and either a decimal with an
  optional point and exponent, or `inf`, `infinity`, `nan` in any case. Underscores may stand
  between two digits anywhere in the text. The value is the double nearest to the decimal.
-/

namespace Turtle

/-- The text brought to ASCII: Unicode white space becomes a space, a decimal digit becomes its
ASCII digit, and the first other non-ASCII character ends the text as a `?`. -/
def asciiDigits : List Char → List Char
  | [] => []
  | c :: cs =>
    if c.toNat < 127 then c :: asciiDigits cs
    else if Text.isSpace c then ' ' :: asciiDigits cs
    else match Text.decimalValue? c with
      | some d => Nat.digitChar d :: asciiDigits cs
      | none => ['?']

/-- The text without ASCII blanks at either end. -/
def trimBlanks (cs : List Char) : List Char :=
  ((cs.dropWhile Text.isAsciiBlank).reverse.dropWhile Text.isAsciiBlank).reverse

/-- A leading sign, read off: `true` for a minus. -/
def splitSign : List Char → Bool × List Char
  | '+' :: cs => (false, cs)
  | '-' :: cs => (true, cs)
  | cs => (false, cs)

/-- The value of a string of ASCII digits. -/
def digitsValue (ds : List Char) : Nat :=
  ds.foldl (fun n d => 10 * n + (d.toNat - '0'.toNat)) 0

/-- Integer text with more digits than this is refused. -/
def integerDigitLimit : Nat := 4300

/-- The digits of an integer body: digits with single underscores between digits, or `none`. -/
def integerBody : List Char → Option (List Char)
  | [] => none
  | c :: cs => if c.isDigit then go [c] cs else none
where
  /-- `acc` holds the digits read so far, last first -/
  go (acc : List Char) : List Char → Option (List Char)
    | [] => some acc.reverse
    | '_' :: c :: cs => if c.isDigit then go (c :: acc) cs else none
    | c :: cs => if c.isDigit then go (c :: acc) cs else none

/-- Integer text: blanks, an optional sign, digits with single underscores between them. -/
def readInteger? (s : String) : Option Int := do
  let (negative, body) := splitSign (trimBlanks (asciiDigits s.toList))
  let ds ← integerBody body
  if ds.length > integerDigitLimit then none
  let n : Int := digitsValue ds
  pure (if negative then -n else n)

/-- The text without underscores, each of which must stand between two digits. -/
def dropUnderscores (cs : List Char) : Option (List Char) :=
  go ' ' cs
where
  /-- `prev` is the character before the rest -/
  go (prev : Char) : List Char → Option (List Char)
    | [] => if prev == '_' then none else some []
    | '_' :: cs => if prev.isDigit then go '_' cs else none
    | c :: cs =>
      if prev == '_' && !c.isDigit then none else (go c cs).map (c :: ·)

/-- The double nearest to a decimal: an infinity far above the largest double and zero far
below the least one. -/
def Decimal.toFloat (d : Decimal) : Float :=
  if d.digits == 0 then 0.0
  else
    let size : Int := (Nat.toDigits 10 d.digits).length
    if size + d.exp > 310 then Float.ofScientific 1 false 400
    else if size + d.exp < -330 then 0.0
    else Float.ofScientific d.digits (d.exp < 0) d.exp.natAbs

/-- An unsigned decimal: digits with an optional point (some digit on either side), and an
optional exponent with its own sign. -/
def decimalBody (cs : List Char) : Option Decimal :=
  let whole := cs.takeWhile Char.isDigit
  let rest := cs.dropWhile Char.isDigit
  let (frac, rest) := match rest with
    | '.' :: r => (r.takeWhile Char.isDigit, r.dropWhile Char.isDigit)
    | r => ([], r)
  if whole.isEmpty && frac.isEmpty then none
  else
    let exp : Option Int := match rest with
      | [] => some 0
      | e :: r =>
        if e == 'e' || e == 'E' then
          let (negative, ds) := splitSign r
          if !ds.isEmpty && ds.all Char.isDigit then
            let n : Int := digitsValue ds
            some (if negative then -n else n)
          else none
        else none
    exp.map fun e => ⟨digitsValue (whole ++ frac), e - frac.length⟩

/-- Decimal text: blanks, an optional sign, and a decimal or one of the words `inf`, `infinity`,
`nan` in any case; underscores between digits are allowed. -/
def readDecimal? (s : String) : Option Float := do
  let cs ← dropUnderscores (asciiDigits s.toList)
  let (negative, body) := splitSign (trimBlanks cs)
  let word := String.ofList (body.map Char.toLower)
  let x ←
    if word == "inf" || word == "infinity" then some (1.0 / 0.0)
    else if word == "nan" then some (0.0 / 0.0)
    else (decimalBody body).map Decimal.toFloat
  pure (if negative then -x else x)

end Turtle
