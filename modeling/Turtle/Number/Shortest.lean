import Turtle.Number.Binary

/-!
# The fewest decimal digits that read back

The reals that round to a finite double `x` form an interval: from halfway to the double below
to halfway to the double above, both ends included exactly when the significand is even.
`Binary.admits` tests a decimal against that interval by cross-multiplying naturals.

`Binary.shortest` searches the grids `10^(k-1), 10^(k-2), …` below the leading power `10^k` of
`x`: on each grid only the two neighbours of `x` can lie in the interval, so the first grid with
a neighbour inside gives the fewest digits; of two neighbours inside, the nearer to `x` wins,
and an exact tie goes to the even digit string. Seventeen digits always reach the interval, so
the search is bounded.
-/

namespace Turtle

/-- The decimal `digits * 10 ^ exp`. -/
structure Decimal where
  digits : Nat
  exp : Int
deriving Repr, DecidableEq

namespace Decimal

/-- The same decimal with the trailing zeros of its digits moved into the exponent. -/
def normalize (d : Decimal) : Decimal :=
  go d.digits.log2.succ d.digits d.exp
where
  /-- at most `fuel` zeros are moved: a natural has fewer trailing zeros than bits -/
  go : Nat → Nat → Int → Decimal
    | 0, n, e => ⟨n, e⟩
    | fuel + 1, n, e => if n != 0 && n % 10 == 0 then go fuel (n / 10) (e + 1) else ⟨n, e⟩

end Decimal

/-- Compares `a * 10 ^ i` with `n * 2 ^ j`, exactly. -/
def compareScaled (a : Nat) (i : Int) (n : Nat) (j : Int) : Ordering :=
  compare (a * Nat.pow 10 i.toNat * Nat.pow 2 (-j).toNat)
    (n * Nat.pow 2 j.toNat * Nat.pow 10 (-i).toNat)

namespace Binary

/-- The decimal lies among the reals that round to `x` (to nearest, ties to even). -/
def admits (x : Binary) (d : Decimal) : Bool :=
  let lo := if x.narrowBelow then 4 * x.m - 1 else 4 * x.m - 2
  let hi := 4 * x.m + 2
  let closed := x.m % 2 == 0
  let cl := compareScaled d.digits d.exp lo (x.q - 2)
  let ch := compareScaled d.digits d.exp hi (x.q - 2)
  (cl == .gt || (closed && cl == .eq)) && (ch == .lt || (closed && ch == .eq))

/-- `x` lies below `10 ^ k`. -/
def below (x : Binary) (k : Int) : Bool :=
  compareScaled 1 k x.m x.q == .gt

/-- The least `k` with `x < 10 ^ k`, for a non-zero `x`: an estimate from the bit length,
corrected by a few exact comparisons. -/
def leadingPower (x : Binary) : Int :=
  let bits : Int := (x.m.log2 : Int) + x.q
  -- 30103 / 100000 is log10 2 from below, so the estimate is at most one too small
  let k0 : Int := (bits * 30103) / 100000
  up 4 k0
where
  /-- moves `k` up until `x < 10 ^ k`, then down while `x < 10 ^ (k - 1)` -/
  up : Nat → Int → Int
    | 0, k => down 4 k
    | fuel + 1, k => if below x k then down 4 k else up fuel (k + 1)
  down : Nat → Int → Int
    | 0, k => k
    | fuel + 1, k => if below x (k - 1) then down fuel (k - 1) else k

/-- The two neighbours of `x` on the grid `10 ^ g`: `⌊x / 10^g⌋` and one more, with the
comparison of `x` against their midpoint (`.lt`: the lower one is nearer). -/
def neighbours (x : Binary) (g : Int) : Nat × Nat × Ordering :=
  -- x / 10^g = num / den
  let num := x.m * Nat.pow 2 x.q.toNat * Nat.pow 10 (-g).toNat
  let den := Nat.pow 2 (-x.q).toNat * Nat.pow 10 g.toNat
  let lower := num / den
  (lower, lower + 1, compare (2 * num) ((2 * lower + 1) * den))

/-- The decimal on the grid `10 ^ g` that reads back as `x`, if any: of two, the nearer, and on
a tie the even one. -/
def onGrid (x : Binary) (g : Int) : Option Decimal :=
  let (lower, upper, side) := x.neighbours g
  match x.admits ⟨lower, g⟩, x.admits ⟨upper, g⟩ with
  | true, true =>
    match side with
    | .lt => some ⟨lower, g⟩
    | .gt => some ⟨upper, g⟩
    | .eq => some (if lower % 2 == 0 then ⟨lower, g⟩ else ⟨upper, g⟩)
  | true, false => some ⟨lower, g⟩
  | false, true => some ⟨upper, g⟩
  | false, false => none

/-- The nearest decimal to `x` on the grid `10 ^ g`, a tie going to the even digits. -/
def nearestOnGrid (x : Binary) (g : Int) : Decimal :=
  let (lower, upper, side) := x.neighbours g
  match side with
  | .lt => ⟨lower, g⟩
  | .gt => ⟨upper, g⟩
  | .eq => if lower % 2 == 0 then ⟨lower, g⟩ else ⟨upper, g⟩

/-- The decimal with the fewest digits that reads back as the non-zero `x`, trailing zeros
moved into the exponent. -/
def shortest (x : Binary) : Decimal :=
  let k := x.leadingPower
  (search k 1 16).normalize
where
  /-- tries `n, n + 1, …` digits; at the last width the nearest decimal always reads back -/
  search (k : Int) (n : Nat) : Nat → Decimal
    | 0 => x.nearestOnGrid (k - n)
    | fuel + 1 =>
      match x.onGrid (k - n) with
      | some d => d
      | none => search k (n + 1) fuel

end Binary

end Turtle
