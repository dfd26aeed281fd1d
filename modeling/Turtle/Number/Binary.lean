/-!
# Doubles as exact numbers

A double is NaN, an infinity, or a finite value `±m · 2^q`; `Float.shape` reads this off the
bits. The conversions that must be exact are computed from that pair in `Nat` and `Int`:

* `Float.truncate`: the integer part, toward zero;
* `Float.roundHalfEven`: the nearest integer, a tie going to the even one;
* `roundDiv`: a quotient of naturals rounded to nearest, ties to even, the rule both share.

NaN and the infinities have no integer value; the conversions refuse them with a `NonFinite`
cause, which the callers turn into their own errors.
-/

namespace Turtle

/-- A finite non-negative double, the value `m * 2 ^ q`. -/
structure Binary where
  /-- the significand, with the hidden bit of a normal value -/
  m : Nat
  /-- the binary exponent of the last significand bit -/
  q : Int
  /-- the gap to the double below is half the gap to the double above (a power of two) -/
  narrowBelow : Bool
deriving Repr, DecidableEq

namespace Binary

/-- The magnitude that the bits of a finite double stand for; the sign bit is ignored. -/
def ofBits (b : UInt64) : Binary :=
  let e := ((b >>> 52) &&& 0x7FF).toNat
  let f := (b &&& 0xFFFFFFFFFFFFF).toNat
  if e == 0 then ⟨f, -1074, false⟩ else ⟨Nat.pow 2 52 + f, (e : Int) - 1075, f == 0 && e > 1⟩

/-- `x.scaled k` is `x * 2 ^ k` as a fraction `num / den` of naturals. -/
def scaled (x : Binary) (k : Int) : Nat × Nat :=
  let e := x.q + k
  if 0 ≤ e then (x.m * Nat.pow 2 e.toNat, 1) else (x.m, Nat.pow 2 (-e).toNat)

end Binary

/-- The quotient `num / den` rounded to the nearest natural, a tie going to the even one. -/
def roundDiv (num den : Nat) : Nat :=
  let q := num / den
  let r := num % den
  match compare (2 * r) den with
  | .lt => q
  | .gt => q + 1
  | .eq => if q % 2 == 0 then q else q + 1

/-- Why a double has no integer value. -/
inductive NonFinite where
  /-- the double is NaN -/
  | nan
  /-- the double is an infinity -/
  | infinite
deriving Repr, DecidableEq

/-- What the bits of a double stand for. -/
inductive Shape where
  /-- not a number -/
  | nan
  /-- an infinity of the given sign -/
  | infinite (negative : Bool)
  /-- a finite value `±magnitude`, zero included -/
  | finite (negative : Bool) (magnitude : Binary)

namespace Float

/-- The shape of a double, read from its bits. -/
def shape (x : Float) : Shape :=
  let b := x.toBits
  let negative := b >>> 63 == 1
  if (b >>> 52) &&& 0x7FF == 0x7FF then
    if b &&& 0xFFFFFFFFFFFFF == 0 then .infinite negative else .nan
  else .finite negative (Binary.ofBits b)

/-- The integer part of a double, toward zero. -/
def truncate (x : Float) : Except NonFinite Int :=
  match shape x with
  | .nan => .error .nan
  | .infinite _ => .error .infinite
  | .finite negative b =>
    let (num, den) := b.scaled 0
    let v : Int := num / den
    .ok (if negative then -v else v)

/-- The integer nearest to a double, a tie going to the even one. -/
def roundHalfEven (x : Float) : Except NonFinite Int :=
  match shape x with
  | .nan => .error .nan
  | .infinite _ => .error .infinite
  | .finite negative b =>
    let (num, den) := b.scaled 0
    let v : Int := roundDiv num den
    .ok (if negative then -v else v)

/-- The double nearest to an integer, or `none` when the integer is too large for a double:
it would round to an infinity. -/
def ofInt? (n : Int) : Option Float :=
  let x := Float.ofInt n
  if x.isInf then none else some x

end Float

end Turtle
