/-!
# 64-bit integers

Integers of the query language are 64 bits wide. Their arithmetic is done in `Int` and comes
back through `ofInt?`, which refuses what does not fit, so that nothing ever wraps around.
-/

namespace PathQuery.Number

-- Whatever else is imported, powers are those of the core library wherever `Number` is open.
attribute [scoped instance(high)] instPowNat

/-- The 64-bit integer of a value, if it fits. -/
def ofInt? (n : Int) : Option Int64 :=
  if h : Int64.minValue.toInt ≤ n ∧ n ≤ Int64.maxValue.toInt then
    some (Int64.ofIntLE n h.1 h.2)
  else none

theorem ofInt?_eq_some_iff {n : Int} {k : Int64} : ofInt? n = some k ↔ k.toInt = n := by
  unfold ofInt?
  split
  · next h =>
    rw [Option.some.injEq]
    constructor
    · rintro rfl; exact Int64.toInt_ofIntLE
    · rintro rfl; exact Int64.ofIntLE_toInt k
  · next h =>
    constructor
    · intro hk; cases hk
    · rintro rfl
      exact absurd ⟨k.minValue_le_toInt, k.toInt_le⟩ h

@[simp] theorem ofInt?_toInt (k : Int64) : ofInt? k.toInt = some k :=
  ofInt?_eq_some_iff.2 rfl

theorem toInt_minValue : Int64.minValue.toInt = -2 ^ (63 : Nat) := rfl

theorem toInt_maxValue : Int64.maxValue.toInt = 2 ^ (63 : Nat) - 1 := rfl

/-- What lies in the range fits. -/
theorem exists_ofInt? {n : Int} (hlow : -2 ^ (63 : Nat) ≤ n) (hhigh : n < 2 ^ (63 : Nat)) :
    ∃ k, ofInt? n = some k := by
  rw [← toInt_minValue] at hlow
  have hmax := toInt_maxValue
  exact ⟨_, dif_pos ⟨hlow, by omega⟩⟩

theorem ofInt?_eq_none {n : Int} (h : 2 ^ (63 : Nat) < n.natAbs) : ofInt? n = none := by
  have hmin := toInt_minValue
  have hmax := toInt_maxValue
  exact dif_neg (by omega)

/-- Digits as they are written in decimal, most significant first. -/
def natText (n : Nat) : List Char :=
  Nat.toDigits 10 n

/-- An integer in decimal, with a hyphen in front when it is negative. -/
def intText : Int → List Char
  | .ofNat n => natText n
  | .negSucc n => '-' :: natText (n + 1)

/-- The number that a run of decimal digits writes; `none` unless all are ASCII digits and
there is at least one. -/
def readNat (cs : List Char) : Option Nat :=
  if cs.isEmpty then none
  else if cs.all Char.isDigit then some (Nat.ofDigitChars 10 cs 0) else none

/-- An optional sign and at least one ASCII digit. -/
def readInt : List Char → Option Int
  | '-' :: cs => (readNat cs).map fun n => -(n : Int)
  | '+' :: cs => (readNat cs).map Int.ofNat
  | cs => (readNat cs).map Int.ofNat

/-- Reads a 64-bit integer; a number that does not fit is refused. -/
def readInt64 (cs : List Char) : Option Int64 :=
  (readInt cs).bind ofInt?

theorem readNat_natText (n : Nat) : readNat (natText n) = some n := by
  have hne : Nat.toDigits 10 n ≠ [] := Nat.toDigits_ne_nil
  have hall : (Nat.toDigits 10 n).all Char.isDigit = true := by
    rw [List.all_eq_true]
    intro c hc
    exact Nat.isDigit_of_mem_toDigits (b := 10) (by decide) (by decide) hc
  unfold readNat natText
  rw [if_neg (by simp), if_pos hall, Nat.ofDigitChars_ten_toDigits]

end PathQuery.Number
