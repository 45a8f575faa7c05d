/-!
# Sets of code points given by ranges

The character properties of the Unicode standard are unions of a few hundred ranges. A
`RangeSet` holds such a union in ascending order, and membership is a binary search.
-/

namespace PathQuery.Unicode

/-- Disjoint ranges of code points in ascending order, both ends included. -/
structure RangeSet where
  ranges : Array (Nat × Nat)
deriving Inhabited

namespace RangeSet

/-- The value of a hexadecimal digit; other characters count as zero. -/
def hexDigitValue (c : Char) : Nat :=
  if c.isDigit then c.toNat - '0'.toNat
  else if 'a' ≤ c ∧ c ≤ 'f' then c.toNat - 'a'.toNat + 10
  else if 'A' ≤ c ∧ c ≤ 'F' then c.toNat - 'A'.toNat + 10
  else 0

/-- The number that a run of hexadecimal digits writes. -/
def hexValue (digits : List Char) : Nat :=
  digits.foldl (fun n c => 16 * n + hexDigitValue c) 0

/-- Reads one range: a single code point, or two joined by a hyphen. -/
def readRange (item : String) : Option (Nat × Nat) :=
  match item.splitOn "-" with
  | [only] => if only.isEmpty then none else some (hexValue only.toList, hexValue only.toList)
  | [low, high] => some (hexValue low.toList, hexValue high.toList)
  | _ => none

/-- Reads the ranges of a table, written in hexadecimal and separated by blanks and line
ends. -/
def ofText (text : String) : RangeSet :=
  let items := (text.map fun c => if c = '\n' then ' ' else c).splitOn " "
  ⟨(items.filterMap readRange).toArray⟩

/-- Looks for `n` in the ranges from position `low` up to `high`. -/
def search (ranges : Array (Nat × Nat)) (n low high : Nat) : Bool :=
  if low < high then
    let middle := (low + high) / 2
    match ranges[middle]? with
    | none => false
    | some (first, last) =>
      if n < first then search ranges n low middle
      else if last < n then search ranges n (middle + 1) high
      else true
  else false
termination_by high - low

/-- Whether a character lies in one of the ranges. -/
def contains (set : RangeSet) (c : Char) : Bool :=
  search set.ranges c.toNat 0 set.ranges.size

end RangeSet

end PathQuery.Unicode
