import Turtle.Number.Shortest

/-!
# Doubles to a fixed number of places

Tick labels write doubles to a chosen number of places or significant digits, and the scale
label rounds a double to ten places first. All of these round the exact binary value of the
double, on the decimal grid asked for, to the nearest point, a tie going to the even digits
(`Binary.nearestOnGrid`):

* `Float.fixed p x` writes `x` with `p` digits after the point (`%.pf`); a negative double keeps
  its minus sign even when it rounds to zero;
* `Float.general p x` writes `x` with `p` significant digits (`%.pg`), positionally when the
  leading digit stands from `10^-4` up to `10^(p-1)` and with a signed exponent of at least two
  digits otherwise, trailing zeros and a bare point dropped;
* `Float.roundPlaces p x` is the double nearest to `x` rounded to `p` places;
* `Float.roundEven x` is the integer nearest to `x`, a tie going to the even one, as a double.

`Float.ofRatio` gives the double nearest to a positive fraction of naturals; it is what the
rounded decimals are read back with.
-/

namespace Turtle

namespace Float

/-- The double nearest to `num / den`, a tie going to the even significand: the quotient is
taken to 53 bits (fewer below the normal range), rounded once and scaled back exactly. -/
def ofRatio (num den : Nat) : Float :=
  if num == 0 || den == 0 then 0.0
  else
    -- num / den lies in [2^(e-1), 2^(e+1))
    let e : Int := (num.log2 : Int) - (den.log2 : Int)
    let quotient (k : Int) : Nat × Nat :=
      if 0 ≤ k then (num * Nat.pow 2 k.toNat, den) else (num, den * Nat.pow 2 (-k).toNat)
    let k0 : Int := min (53 - e) 1074
    let (a, b) := quotient k0
    let k := if a / b ≥ Nat.pow 2 53 then k0 - 1 else k0
    let (a, b) := quotient k
    Float.scaleB (Float.ofNat (roundDiv a b)) (-k)

/-- The integer nearest to `x`, a tie going to the even one; a double that is not finite stays
as it is. Doubles from `2^52` up are integers already. -/
def roundEven (x : Float) : Float :=
  if !x.isFinite || x.abs ≥ 4503599627370496.0 then x
  else
    let f := x.floor
    let r := x - f
    if r > 0.5 then f + 1.0
    else if r < 0.5 then f
    else if Float.floor (f / 2.0) * 2.0 == f then f else f + 1.0

/-- The decimal digits of a natural, at least `width` of them, zeros in front. -/
def padded (width n : Nat) : String :=
  let ds := toString n
  String.ofList (List.replicate (width - ds.length) '0') ++ ds

/-- Digits with a point before the last `places` of them. -/
def pointed (places : Nat) (ds : String) : String :=
  if places == 0 then ds
  else
    let cs := ds.toList
    String.ofList (cs.take (cs.length - places)) ++ "." ++ String.ofList (cs.drop (cs.length - places))

/-- The text of `x` with `places` digits after the point. -/
def fixed (places : Nat) (x : Float) : String :=
  match shape x with
  | .nan => "nan"
  | .infinite negative => if negative then "-inf" else "inf"
  | .finite negative b =>
    let d := b.nearestOnGrid (-(places : Int))
    (if negative then "-" else "") ++ pointed places (padded (places + 1) d.digits)

/-- `x` rounded to `places` digits after the point, read back as the nearest double; a double
that is not finite stays as it is. -/
def roundPlaces (places : Nat) (x : Float) : Float :=
  match shape x with
  | .finite negative b =>
    let d := b.nearestOnGrid (-(places : Int))
    let r := ofRatio d.digits (Nat.pow 10 places)
    if negative then -r else r
  | _ => x

/-- Digits without the zeros at their end, and without the point if nothing follows it. -/
def trimFraction (s : String) : String :=
  if s.contains '.' then
    let cs := (s.toList.reverse.dropWhile (· == '0'))
    let cs := if cs.head? == some '.' then cs.tail else cs
    String.ofList cs.reverse
  else s

/-- The text of `x` with `precision` significant digits (at least one), positional or with an
exponent by the exponent of its leading digit after rounding. -/
def general (precision : Nat) (x : Float) : String :=
  let p := max precision 1
  match shape x with
  | .nan => "nan"
  | .infinite negative => if negative then "-inf" else "inf"
  | .finite negative b =>
    let sign := if negative then "-" else ""
    if b.m == 0 then sign ++ "0"
    else
      let k := b.leadingPower
      let d := b.nearestOnGrid (k - p)
      -- rounding up to `10^p` moves the leading digit one place
      let (digits, lead) := if d.digits ≥ Nat.pow 10 p then (d.digits / 10, k) else (d.digits, k - 1)
      if -4 ≤ lead ∧ lead < p then
        let places := (p - 1 - lead).toNat
        sign ++ trimFraction (pointed places (padded (places + 1) digits))
      else
        let mantissa := trimFraction (pointed (p - 1) (toString digits))
        let ex := toString lead.natAbs
        sign ++ mantissa ++ "e" ++ (if lead < 0 then "-" else "+") ++
          String.ofList (List.replicate (2 - ex.length) '0') ++ ex

end Float

end Turtle
