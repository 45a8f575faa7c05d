import PathQuery.Fault

/-!
# Positions and slices

How an index and the ends of a slice name positions in a sequence. What is negative counts
from the end. An index must hit a position; the ends of a slice are brought into range, so
that a slice never fails, unless its step is zero.
-/

namespace PathQuery

/-- The position that an index names in a sequence of some size. -/
def position (index : Int64) (size : Nat) : Except EvalFault Nat :=
  let place := if index.toInt < 0 then size + index.toInt else index.toInt
  if 0 ≤ place ∧ place < size then .ok place.toNat else .error (.indexOutOfRange index size)

theorem position_lt {index : Int64} {size place : Nat} (h : position index size = .ok place) :
    place < size := by
  unfold position at h
  dsimp only at h
  split at h <;> split at h <;> simp only [Except.ok.injEq, reduceCtorEq] at h <;> omega

namespace Slice

/-- An end of a slice, counted from the start of the sequence. -/
def fromStart (size : Nat) (bound : Int64) : Int :=
  if bound.toInt < 0 then size + bound.toInt else bound.toInt

/-- Brings a number between two others. -/
def clamp (low high n : Int) : Int :=
  max low (min high n)

/-- The numbers from `start` on in steps of `step`, as long as they are below `stop`. -/
def ascending (start stop step : Int) : List Nat :=
  (List.range ((stop - start + step - 1) / step).toNat).map fun k : Nat => (start + k * step).toNat

/-- The numbers from `start` down in steps of `step`, as long as they are above `stop`. -/
def descending (start stop step : Int) : List Nat :=
  (List.range ((start - stop + step - 1) / step).toNat).map fun k : Nat => (start - k * step).toNat

/-- The positions that a slice selects, in the order of the slice. Going down, a missing end
lies before the first position. -/
def positions (size : Nat) (start stop : Option Int64) (step : Int64) :
    Except EvalFault (List Nat) :=
  let start := start.map (fromStart size)
  let stop := stop.map (fromStart size)
  if 0 < step.toInt then
    .ok (ascending (clamp 0 size (start.getD 0)) (clamp 0 size (stop.getD size)) step.toInt)
  else if step.toInt < 0 then
    .ok (descending (clamp (-1) (size - 1) (start.getD (size - 1)))
      (clamp (-1) (size - 1) (stop.getD (-1))) (-step.toInt))
  else .error (.invalidArgument .nonZero "0")

end Slice

end PathQuery
