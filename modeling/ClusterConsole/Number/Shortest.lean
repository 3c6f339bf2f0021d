import ClusterConsole.Number.Binary64

/-!
# The fewest digits that read back

A double is written with the fewest decimal digits that still single it out.  All reals that are
nearer to it than to any other double form an interval around it (the ends belong to it if the
mantissa is even).  On the grid of the multiples of a power of ten only the two multiples next to
the double can be the nearest to it; the coarsest grid on which one of them lies in the interval
gives the digits.  If both do, the nearer is taken, and the even one if they are equally near.
-/

set_option autoImplicit false

namespace ClusterConsole
namespace Binary64

/-- The interval of the reals that round to a double: its ends and the double itself as multiples
of `1 / unit`, and whether the ends belong to it. -/
structure Interval where
  lower : Nat
  middle : Nat
  upper : Nat
  unit : Nat
  closed : Bool

/-- The interval of a positive double.  Below a power of two the next double is only half as far
away. -/
def interval (x : Binary64) : Interval :=
  let m := x.mantissa
  let gap := if m == mantissaBound / 2 && minExponent < x.exponent then 1 else 2
  let (scale, unit) := shift 1 1 (2 - x.exponent)
  ⟨(4 * m - gap) * scale, 4 * m * scale, (4 * m + 2) * scale, unit, m % 2 == 0⟩

/-- Does the interval hold the multiple `n` of `step / unit`, where `step` is a number of units? -/
def Interval.holds (i : Interval) (step n : Nat) : Bool :=
  if i.closed then i.lower ≤ n * step && n * step ≤ i.upper
  else i.lower < n * step && n * step < i.upper

/-- The interval on the grid of the multiples of `10 ^ q`, together with the grid's step. -/
def Interval.onGrid (i : Interval) (q : Int) : Interval × Nat :=
  if 0 ≤ q then (i, i.unit * Nat.pow 10 q.toNat)
  else
    let f := Nat.pow 10 (-q).toNat
    ({ i with lower := i.lower * f, middle := i.middle * f, upper := i.upper * f }, i.unit)

/-- The multiple of `10 ^ q` that stands for the double, if one next to it lies in the interval. -/
def Interval.digits? (i : Interval) (q : Int) : Option Nat :=
  let (i, step) := i.onGrid q
  let n := i.middle / step
  match i.holds step n, i.holds step (n + 1) with
  | true, true =>
    let below := i.middle - n * step
    let above := (n + 1) * step - i.middle
    some (if below < above || (below == above && n % 2 == 0) then n else n + 1)
  | true, false => some n
  | false, true => some (n + 1)
  | false, false => none

/-- The digits on the first of `grids` grids, from `10 ^ q` downwards, that has any. -/
def Interval.search (i : Interval) : (grids : Nat) → (q : Int) → Nat × Int
  | 0, q => (i.middle / i.unit, q)
  | grids + 1, q =>
    match i.digits? q with
    | some n => (n, q)
    | none => i.search grids (q - 1)

/-- A power of ten beyond a positive double, given by its exponent: the binary digits before the
point, times a little more than the decimal digits that one of them is worth. -/
def beyond (x : Binary64) : Int :=
  let (num, den) := x.ratio
  (((num.log2 : Int) - (den.log2 : Int) + 1) * 1233).fdiv 4096 + 1

/-- The shortest digits of a positive double, as a natural number and the power of ten it counts.
Seventeen digits always suffice, so twenty grids are enough. -/
def shortest (x : Binary64) : Nat × Int := x.interval.search 20 x.beyond

end Binary64
end ClusterConsole
