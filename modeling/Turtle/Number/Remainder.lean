import Turtle.Number.Binary

/-!
# Remainders and floor division of doubles

`Float.fmod x y` is the remainder of `x` by `y` with the quotient truncated toward zero: the
value `x - n * y` for the integer `n` nearest to `x / y` toward zero. It is computed exactly from
the significands and exponents, and the exact value is always a double: it has the sign of `x`,
is smaller than `y` in magnitude, and is a multiple of the smaller of the two exponents' units.

`Float.divMod x y` is floor division with a remainder of the sign of `y`, built on it: the quotient
`(x - r) / y` is rounded, and snapped to the nearest integer, so that it is integral even when the
subtraction or the division rounds.
-/

namespace Turtle

namespace Float

/-- The value of `x` with the sign of `s`. -/
def copySign (x s : Float) : Float :=
  Float.ofBits ((x.toBits &&& 0x7FFFFFFFFFFFFFFF) ||| (s.toBits &&& 0x8000000000000000))

/-- The remainder of `x` by `y`, the quotient truncated toward zero; NaN when `x` is not finite,
when `y` is zero, or when either is NaN, and `x` itself when `y` is infinite. -/
def fmod (x y : Float) : Float :=
  match shape x, shape y with
  | .finite nx a, .finite _ b =>
    if b.m == 0 then 0.0 / 0.0
    else
      let q := min a.q b.q
      let u := a.m * Nat.pow 2 (a.q - q).toNat
      let v := b.m * Nat.pow 2 (b.q - q).toNat
      let r := Float.scaleB (Float.ofNat (u % v)) q
      if nx then -r else r
  | .finite _ _, .infinite _ => x
  | _, _ => 0.0 / 0.0

/-- Floor division with its remainder: the quotient rounded down to an integer, and the
remainder, which has the sign of `y`. -/
def divMod (x y : Float) : Float × Float :=
  let m := fmod x y
  let d := (x - m) / y
  let (m, d) :=
    if m != 0.0 then
      if (y < 0.0) != (m < 0.0) then (m + y, d - 1.0) else (m, d)
    else (copySign 0.0 y, d)
  let q :=
    if d != 0.0 then
      let f := d.floor
      if d - f > 0.5 then f + 1.0 else f
    else copySign 0.0 (x / y)
  (q, m)

/-- The quotient of floor division. -/
def floorDiv (x y : Float) : Float := (divMod x y).1

end Float

end Turtle
