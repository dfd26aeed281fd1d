import Turtle.Number.Remainder
import Turtle.Fault

/-!
# Axis ticks

An axis of a picture is labelled at round values. The tick rule picks, for the limits `lo..hi`
and a number of bins `n`, the step: a power of ten for the bin width, times one of the factors
`0.1, 0.2, 0.25, 0.5, 1, 2, 2.5, 5, 10, 20`, the smallest that covers the interval in `n` bins,
going down to a finer factor while fewer than two ticks fall inside. When the interval sits far
from zero (its middle more than a hundred widths away), the ticks are computed relative to a
power of ten near the middle, and a tick within a small tolerance of a step boundary counts as on
it.

The ticks of a step are counted off as a numeric range is, from the first step edge at or below
the interval to the last at or above it (`run`); a count that is not a number or too large for a
machine word fails there.
-/

namespace Turtle

namespace Ticks

/-- The smallest positive normal double. -/
def tinyNormal : Float := 2.2250738585072014e-308

/-- Limits made usable: ordered; replaced by `-expander..expander` when not finite or too close
to zero; widened by the fraction `expander` at both ends when narrower than `tiny` times their
magnitude. -/
def widen (expander tiny lo hi : Float) : Float × Float :=
  if !lo.isFinite || !hi.isFinite then (-expander, expander)
  else
    let (lo, hi) := if hi < lo then (hi, lo) else (lo, hi)
    let big := max lo.abs hi.abs
    if big < (1e6 / tiny) * tinyNormal then (-expander, expander)
    else if hi - lo ≤ big * tiny then
      if hi == 0.0 && lo == 0.0 then (-expander, expander)
      else (lo - expander * lo.abs, hi + expander * hi.abs)
    else (lo, hi)

/-- The power of ten for bins of the interval, and the offset the ticks are computed from: zero,
or a signed power of ten near the middle when the interval is far from zero. -/
def scaleRange (lo hi n : Float) : Float × Float :=
  let dv := (hi - lo).abs
  let mean := (hi + lo) / 2.0
  let offset :=
    if mean.abs / dv < 100.0 then 0.0
    else Float.copySign (Float.pow 10.0 (Float.floorDiv (Float.log10 mean.abs) 1.0)) mean
  (Float.pow 10.0 (Float.floorDiv (Float.log10 (dv / n)) 1.0), offset)

/-- The step factors, from a tenth of the finest to twice the coarsest. -/
def factors : List Float :=
  [0.1 * 1.0, 0.1 * 2.0, 0.1 * 2.5, 0.1 * 5.0, 1.0, 2.0, 2.5, 5.0, 10.0, 10.0 * 2.0]

/-- `ms` lies within the tolerance of `edge`; the tolerance grows with the offset's size in
steps. -/
def closeTo (step offset ms edge : Float) : Bool :=
  let tol :=
    if offset.abs > 0.0 then
      min 0.4999 (max 1e-10 (Float.pow 10.0 (Float.log10 (offset.abs / step) - 12.0)))
    else 1e-10
  (ms - edge).abs < tol

/-- The largest count of steps at or below `x`, a near miss counting as reached. -/
def stepsBelow (step offset x : Float) : Float :=
  let (d, m) := Float.divMod x step
  if closeTo step offset (m / step) 1.0 then d + 1.0 else d

/-- The smallest count of steps at or above `x`, a near miss counting as reached. -/
def stepsAbove (step offset x : Float) : Float :=
  let (d, m) := Float.divMod x step
  if closeTo step offset (m / step) 0.0 then d else d + 1.0

/-- The run of numbers `start, start + 1, …` below `stop`, filled as numeric ranges are: the
second value is `start + 1` and each later one `start + i * ((start + 1) - start)`. Its length is
`stop - start` rounded up; a length that is not a number fails, and so does one beyond the
signed 64-bit counts, the largest of which counts as negative and gives an empty run. -/
def run (start stop : Float) : Except Fault (List Float) :=
  let len := (stop - start).ceil
  if len.isNaN then throw .rangeUnknown
  else if !(-9223372036854775808.0 ≤ len && len ≤ 9223372036854775808.0) then throw .rangeOverflow
  else if len ≤ 0.0 || len == 9223372036854775808.0 then pure []
  else
    let second := start + 1.0
    let delta := second - start
    pure ((List.range len.toUInt64.toNat).map fun i =>
      if i == 0 then start else if i == 1 then second else start + i.toFloat * delta)

/-- The ticks of one step that span the interval, relative to the offset. -/
def spanning (lo hi offset step : Float) : Except Fault (List Float) := do
  let base := Float.floorDiv lo step * step
  let low := stepsBelow step offset (lo - base)
  let high := stepsAbove step offset (hi - base)
  let counts ← run low (high + 1.0)
  pure (counts.map fun i => i * step + base)

/-- Tries the candidate steps from the coarsest down until one gives two ticks inside; the
ticks of the last one tried otherwise. -/
def firstSpanning (lo hi offset : Float) : List Float → List Float → Except Fault (List Float)
  | [], last => pure last
  | step :: rest, _ => do
    let ticks ← spanning lo hi offset step
    if (ticks.filter fun t => t ≤ hi && t ≥ lo).length ≥ 2 then pure ticks
    else firstSpanning lo hi offset rest ticks

/-- The ticks for the limits `lo..hi` with `n` bins; the first step at least the bin width is
the coarsest tried, the finest step when none is. -/
def values (lo hi : Float) (n : Nat) : Except Fault (List Float) := do
  let (lo, hi) := widen 1e-13 1e-14 lo hi
  let (scale, offset) := scaleRange lo hi n.toFloat
  let lo' := lo - offset
  let hi' := hi - offset
  let steps := factors.map (· * scale)
  let raw := (hi' - lo') / n.toFloat
  let large := (steps.findIdx? (· ≥ raw)).getD (steps.length - 1)
  let tried := (steps.take (large + 1)).reverse
  let ticks ← firstSpanning lo' hi' offset tried []
  pure (ticks.map (· + offset))

end Ticks

end Turtle
