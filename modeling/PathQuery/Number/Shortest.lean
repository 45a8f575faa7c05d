import PathQuery.Number.Integer

/-!
# The fewest digits that read back

Every finite double stands for an interval of reals: those that round to it. `shortest` gives
the decimal number with the fewest digits in that interval and, among those, the nearest to
the double. It tries one decimal grid after the other, the coarsest first; if any point of a
grid lies in the interval then so does one of the two neighbours of the double on that grid.
-/

namespace PathQuery.Number

/-- Which neighbour is taken when both are equally near. -/
inductive Tie
  | toEven
  | up
deriving DecidableEq, Repr

/-- A decimal number `coefficient * 10 ^ exponent`. -/
structure Scientific where
  coefficient : Nat
  exponent : Int
deriving DecidableEq, Repr

/-- The reals that round to a double, in units of `2 ^ unit`: those from `low` to `high`, with
both ends if `closed`. The double itself is `middle`. -/
structure Rounding where
  low : Nat
  middle : Nat
  high : Nat
  unit : Int
  closed : Bool

namespace Rounding

/-- The interval of `mantissa * 2 ^ exponent`. Below a power of two the doubles lie twice as
close together, unless the exponent is already the least. -/
def ofFinite (mantissa : Nat) (exponent : Int) : Rounding :=
  let halved := mantissa = 2 ^ (52 : Nat) ∧ -1074 < exponent
  { low := 4 * mantissa - if halved then 1 else 2
    middle := 4 * mantissa
    high := 4 * mantissa + 2
    unit := exponent - 2
    closed := mantissa % 2 = 0 }

/-- Weights `(a, b)` such that `n * 10 ^ place` and `x * 2 ^ unit` compare as `n * a` and
`x * b`. -/
def weights (r : Rounding) (place : Int) : Nat × Nat :=
  (10 ^ place.toNat * 2 ^ (-r.unit).toNat, 2 ^ r.unit.toNat * 10 ^ (-place).toNat)

/-- The point of the grid of step `10 ^ place` that lies in the interval and is nearest to the
double, as a multiple of the step. -/
def onGrid (r : Rounding) (tie : Tie) (place : Int) : Option Nat :=
  let (a, b) := r.weights place
  let below := r.middle * b / a
  let isBelow := if r.closed then r.low * b ≤ below * a else r.low * b < below * a
  let isAbove := if r.closed then (below + 1) * a ≤ r.high * b else (below + 1) * a < r.high * b
  if isBelow then
    if isAbove then
      let double := 2 * r.middle * b
      let halfway := (2 * below + 1) * a
      if double < halfway then some below
      else if halfway < double then some (below + 1)
      else match tie with
        | .up => some (below + 1)
        | .toEven => some (if below % 2 = 0 then below else below + 1)
    else some below
  else if isAbove then some (below + 1)
  else none

/-- Tries the grids from `place` downwards. -/
def search (r : Rounding) (tie : Tie) : Nat → Int → Scientific
  | 0, place =>
    let (a, b) := r.weights place
    ⟨r.middle * b / a, place⟩
  | steps + 1, place =>
    match r.onGrid tie place with
    | some n => ⟨n, place⟩
    | none => r.search tie steps (place - 1)

end Rounding

/-- The shortest decimal that reads back as `mantissa * 2 ^ exponent`. The first grid is
coarser than the number, and seventeen digits always suffice. -/
def shortest (tie : Tie) (mantissa : Nat) (exponent : Int) : Scientific :=
  let bits := exponent + mantissa.log2 + 1
  (Rounding.ofFinite mantissa exponent).search tie 20 (bits * 30103 / 100000 + 1)

end PathQuery.Number
