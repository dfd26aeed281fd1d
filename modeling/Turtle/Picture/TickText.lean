import Turtle.Picture.Ticks
import Turtle.Number.Fixed

/-!
# Tick labels and the scale label

The ticks of an axis are labelled with one format for all of them, and a scale label in the
corner of the axis says how the labels are to be read:

* an *offset* is subtracted from every tick when all visible ticks have one sign and their
  leading digits, four of them or more, are common (`labelOffset`);
* the labels are divided by a power of ten, the *magnitude*, when the visible ticks (or, with an
  offset, the width of the interval) reach a million or stay below a ten-thousandth
  (`magnitude`);
* every label has the same number of places: the fewest from three less the exponent of the
  span of the ticks downwards at which rounding moves no tick by a thousandth of that span, plus
  one (`places`);
* a label that is within `1e-8` of zero is written as zero, and minus signs are typeset as `−`.

The scale label writes the magnitude as `1e<k>` followed by the offset as a significand of ten
places at most with its exponent (`+1.234e5`); it is empty when there is neither.

Powers of ten are computed as the arithmetic that produces each one computes it, since a last
bit of difference can move a rounding: `Float.pow` where a power is raised in doubles, the
nearest double to the exact power where an integer power is converted, and for rounding a
table of exact powers up to `10^8` with repeated multiplication by ten beyond.
-/

namespace Turtle

namespace TickText

/-- The texts an axis shows: a label per tick, and the scale label, empty when there is none. -/
structure Texts where
  labels : List String
  scale : String

/-- The first power `k, k - 1, …` (at most `fuel` of them) at which `ok` holds. -/
def firstPower (ok : Float → Bool) (k : Float) : Nat → Float
  | 0 => k
  | fuel + 1 => if ok k then k else firstPower ok (k - 1.0) fuel

/-- The offset of the tick labels: nonzero when all visible ticks have one sign and share their
leading digits, at least four of them. -/
def labelOffset (visible : List Float) : Float :=
  match visible with
  | [] => 0.0
  | t :: ts =>
    let lmin := ts.foldl min t
    let lmax := ts.foldl max t
    if lmin == lmax || (lmin ≤ 0.0 && 0.0 ≤ lmax) then 0.0
    else
      let a := lmin.abs
      let b := lmax.abs
      let (absMin, absMax) := if a ≤ b then (a, b) else (b, a)
      let sign := if lmin < 0.0 then -1.0 else 1.0
      let top := (Float.log10 absMax).ceil
      let digit (x k : Float) := Float.floorDiv x (Float.pow 10.0 k)
      let oom := 1.0 + firstPower (fun k => digit absMin k != digit absMax k) top 2200
      let oom :=
        if (absMax - absMin) / Float.pow 10.0 oom ≤ 1e-2 then
          1.0 + firstPower (fun k => digit absMax k - digit absMin k > 1.0) top 2200
        else oom
      if digit absMax oom ≥ 1000.0 then sign * digit absMax oom * Float.pow 10.0 oom else 0.0

/-- The integer part of `x` rounded down; an infinity or a NaN has none. -/
def floorToInt (x : Float) : Except Fault Int :=
  match Float.truncate x.floor with
  | .ok n => pure n
  | .error e => throw (Fault.ofNonFinite e)

/-- The greatest of a list of doubles, NaN when one of them is NaN, NaN for no doubles. -/
def greatest : List Float → Float
  | [] => 0.0 / 0.0
  | x :: xs => xs.foldl (fun m y => if m.isNaN || y.isNaN then 0.0 / 0.0 else max m y) x

/-- The least of a list of doubles, NaN when one of them is NaN, NaN for no doubles. -/
def least : List Float → Float
  | [] => 0.0 / 0.0
  | x :: xs => xs.foldl (fun m y => if m.isNaN || y.isNaN then 0.0 / 0.0 else min m y) x

/-- The exponent of ten the labels are divided by: that of the interval's width when there is
an offset, else that of the largest visible tick, kept only from six up or from minus five
down. -/
def magnitude (visible : List Float) (offset lo hi : Float) : Except Fault Int := do
  if visible.isEmpty then return 0
  let oom ←
    if offset != 0.0 then floorToInt (Float.log10 (hi - lo))
    else
      let top := greatest (visible.map Float.abs)
      if top == 0.0 then pure 0 else floorToInt (Float.log10 top)
  pure (if oom ≤ -5 || oom ≥ 6 then oom else 0)

/-- `10 ^ n` for rounding to `n` places: exact from a table up to `10^8`, beyond that `10^9`
multiplied by ten `n - 9` times. -/
def roundingPower (n : Nat) : Float :=
  match n with
  | 0 => 1e0 | 1 => 1e1 | 2 => 1e2 | 3 => 1e3 | 4 => 1e4 | 5 => 1e5 | 6 => 1e6 | 7 => 1e7
  | 8 => 1e8
  | n => (List.range (n - 9)).foldl (fun r _ => r * 10.0) 1e9

/-- `x` rounded to `places` digits after the point, in doubles: scaled up, rounded to an
integer (a tie to the even one), scaled back. -/
def roundTo (places : Nat) (x : Float) : Float :=
  let f := roundingPower places
  Float.roundEven (x * f) / f

/-- The power `10 ^ k` of an integer exponent as a double: the nearest double to the exact
power for `k ≥ 0`, `Float.pow` below. -/
def intPower (k : Int) : Float :=
  if 0 ≤ k then Float.ofRatio (Nat.pow 10 k.toNat) 1 else Float.pow 10.0 (Float.ofInt k)

/-- The first count from `s` down to zero at which `exact` fails, if any. -/
def firstInexact (exact : Nat → Bool) : Nat → Option Nat
  | 0 => if exact 0 then none else some 0
  | s + 1 => if exact (s + 1) then firstInexact exact s else some (s + 1)

/-- The number of places of the labels of `scaled` ticks whose span is `10 ^ spanExp` or more:
from `3 - spanExp` down, the first count at which rounding moves some tick by a thousandth of
that power, plus one; zero when rounding to no places moves none that far. -/
def places (scaled : List Float) (spanExp : Int) : Nat :=
  let thresh := 1e-3 * intPower spanExp
  let exact (s : Nat) := greatest (scaled.map fun v => (v - roundTo s v).abs) < thresh
  match firstInexact exact (3 - spanExp).toNat with
  | none => 0
  | some s => s + 1

/-- Minus signs typeset as `−`. -/
def typeset (s : String) : String := s.replace "-" "−"

/-- The offset as the scale label writes it: a significand rounded to ten places, written as an
integer when it is one and with ten significant digits otherwise, and the exponent of ten when
it is not zero. -/
def offsetText (offset : Float) : Except Fault String := do
  let e ← floorToInt (Float.log10 offset.abs)
  let s := Float.roundPlaces 10 (offset / intPower e)
  let significand ←
    if s.isFinite && s.floor == s then
      match Float.truncate s with
      | .ok n => pure (toString n)
      | .error f => throw (Fault.ofNonFinite f)
    else pure (Float.general 10 s)
  pure (if e == 0 then significand else significand ++ "e" ++ toString e)

/-- The texts of the ticks `locs` of an axis with limits `lo..hi`. -/
def ofTicks (locs : List Float) (lo hi : Float) : Except Fault Texts := do
  if locs.isEmpty then return ⟨[], ""⟩
  let (vmin, vmax) := if hi < lo then (hi, lo) else (lo, hi)
  let visible := locs.filter fun t => vmin ≤ t && t ≤ vmax
  let offset := labelOffset visible
  let oom ← magnitude visible offset vmin vmax
  let unit := Float.pow 10.0 (Float.ofInt oom)
  -- a single tick is measured together with the ends of the interval
  let measured := if locs.length < 2 then locs ++ [lo, hi] else locs
  let scaled := measured.map fun l => (l - offset) / unit
  let span := greatest scaled - least scaled
  let span := if span == 0.0 then greatest (scaled.map Float.abs) else span
  let span := if span == 0.0 then 1.0 else span
  let spanExp ← floorToInt (Float.log10 span)
  let p := places (scaled.take locs.length) spanExp
  let labels := locs.map fun x =>
    let xp := (x - offset) / unit
    typeset (Float.fixed p (if xp.abs < 1e-8 then 0.0 else xp))
  let scale ←
    if oom != 0 || offset != 0.0 then do
      let shift ←
        if offset != 0.0 then do
          let t ← offsetText offset
          pure (if offset > 0.0 then "+" ++ t else t)
        else pure ""
      let power := if oom != 0 then "1e" ++ toString oom else ""
      pure (typeset (power ++ shift))
    else pure ""
  pure ⟨labels, scale⟩

end TickText

end Turtle
