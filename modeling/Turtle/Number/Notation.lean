import Turtle.Number.Shortest

/-!
# Writing a double

`Notation` holds the decisions of a number layout; `Notation.render` writes a double with the
fewest digits that read back (`Binary.shortest`) and lays them out positionally or with an
exponent. `Float.shown` is the one layout the library prints with: it is the text of every
double in answers, error messages and tables.
-/

namespace Turtle

/-- How a double is laid out once its digits are chosen. -/
structure Notation where
  /-- decimal exponents `e` of the leading digit with `plainFrom ≤ e < plainBelow` are written
  positionally -/
  plainFrom : Int
  plainBelow : Int
  /-- an integral positional value keeps a point and a zero (`12.0`) -/
  pointZero : Bool
  /-- the mark before an exponent -/
  expMark : String
  /-- a non-negative exponent carries a plus sign (`1e+16`) -/
  expPlus : Bool
  /-- the least number of exponent digits (`1e-05`) -/
  expWidth : Nat
  /-- the texts of the special values -/
  nan : String
  infinity : String

namespace Notation

/-- `n` zeros. -/
def zeros (n : Nat) : String := String.ofList (List.replicate n '0')

/-- The digits `ds` (no trailing zeros) of a positive value `0.ds × 10 ^ point`, laid out. -/
def layout (f : Notation) (ds : String) (point : Int) : String :=
  let len : Int := ds.length
  let e := point - 1
  if f.plainFrom ≤ e ∧ e < f.plainBelow then
    if point ≤ 0 then "0." ++ zeros (-point).toNat ++ ds
    else if point < len then
      String.ofList (ds.toList.take point.toNat) ++ "." ++ String.ofList (ds.toList.drop point.toNat)
    else ds ++ zeros (point - len).toNat ++ (if f.pointZero then ".0" else "")
  else
    let mantissa := match ds.toList with
      | [d] => String.singleton d
      | d :: rest => String.singleton d ++ "." ++ String.ofList rest
      | [] => "0"
    let digits := toString e.natAbs
    let sign := if e < 0 then "-" else if f.expPlus then "+" else ""
    mantissa ++ f.expMark ++ sign ++ zeros (f.expWidth - digits.length) ++ digits

/-- The text of a double in this notation. -/
def render (f : Notation) (x : Float) : String :=
  match Float.shape x with
  | .nan => f.nan
  | .infinite negative => (if negative then "-" else "") ++ f.infinity
  | .finite negative b =>
    let body :=
      if b.m == 0 then "0" ++ (if f.pointZero then ".0" else "")
      else
        let d := b.shortest
        let ds := toString d.digits
        f.layout ds (d.exp + ds.length)
    (if negative then "-" else "") ++ body

/-- Doubles are shown with the fewest digits that read back, positionally when the leading digit
stands from `10^-4` up to `10^15` and with a signed exponent of at least two digits otherwise;
a positional integral value keeps `.0`, and zero keeps its sign. -/
def shown : Notation where
  plainFrom := -4
  plainBelow := 16
  pointZero := true
  expMark := "e"
  expPlus := true
  expWidth := 2
  nan := "nan"
  infinity := "inf"

end Notation

/-- The text of a double as the library shows it. -/
def Float.shown (x : Float) : String := Notation.shown.render x

end Turtle
