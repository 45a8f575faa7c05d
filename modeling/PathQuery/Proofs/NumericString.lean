import PathQuery.Proofs.CanonicalText
import PathQuery.Proofs.Comparison

/-!
# Strings that spell integers

All operators of arithmetic and order look at an operand through the number that it stands for, unless
both operands are strings. A string that spells an integer stands for just that integer, not for a
float of the same value, and so acts as the integer does on either side of anything that is no string.
Only a remainder tells them apart, by the operand that it names in one of its faults.
-/

namespace PathQuery

open Number Outcome Unicode

/-- A string is the decimal text of an integer with white space around it. -/
def SpellsInteger (s : String) (n : Int64) : Prop :=
  ∃ front back : List Char, isBlank front = true ∧ isBlank back = true ∧
    s.toList = front ++ intText n.toInt ++ back

/-- The operators that take strings for the numbers they spell. -/
def Operator.takesNumbers : Operator → Bool
  | .add | .sub | .mul | .div | .mod | .pow | .lt | .le | .gt | .ge => true
  | .eq | .ne | .matchPattern | .not | .and | .or => false

namespace Value

/-! ## The number of an operand -/

section Spelled

variable {s : String} {n : Int64}

/-- The text is read as an integer, and is not tried as a float. -/
theorem readNumeral_of_spells (h : SpellsInteger s n) : readNumeral s.toList = some (.integer n) := by
  obtain ⟨front, back, hfront, hback, hs⟩ := h
  have htrim : trim s.toList = intText n.toInt := by
    rw [hs, trim_append_right hback, trim_append_left hfront]
    exact (hasEnds_intText n.toInt).trim_eq
  rw [readNumeral, htrim, readInt64_intText]

theorem toNumeral_of_spells (h : SpellsInteger s n) : toNumeral (.string s) = .ok (.integer n) := by
  simp only [toNumeral, readNumeral_of_spells h]

theorem toInteger_integer (n : Int64) : toInteger (.integer n) = .ok n := rfl

theorem toInteger_of_spells (h : SpellsInteger s n) : toInteger (.string s) = .ok n := by
  rw [toInteger, toNumeral_of_spells h]
  rfl

end Spelled

/-! ## Operators -/

section Operators

variable {left left' right right' : Value}

theorem not_strings_of_left (h : ∀ s, left ≠ .string s) (right : Value) :
    ¬∃ s t, left = .string s ∧ right = .string t := by
  rintro ⟨s, _, hs, -⟩
  exact h s hs

theorem not_strings_of_right (h : ∀ t, right ≠ .string t) (left : Value) :
    ¬∃ s t, left = .string s ∧ right = .string t := by
  rintro ⟨_, t, -, ht⟩
  exact h t ht

theorem arithmetic_congr (op : Arithmetic) (hleft : toNumeral left = toNumeral left')
    (hright : toNumeral right = toNumeral right') :
    arithmetic op left right = arithmetic op left' right' := by
  rw [arithmetic, hleft, hright, arithmetic]

/-- Strings are joined only if both operands are strings. -/
theorem plus_eq_arithmetic (h : ¬∃ s t, left = .string s ∧ right = .string t) :
    plus left right = arithmetic .add left right := by
  unfold plus
  split
  · exact absurd ⟨_, _, rfl, rfl⟩ h
  · rfl

/-- Operands that stand for the same numbers give the same result, be they strings or not, if no
strings are joined or compared. -/
theorem applyOperator_congr {op : Operator} (hop : op.takesNumbers = true) (hmod : op ≠ .mod)
    (hstrings : ¬∃ s t, left = .string s ∧ right = .string t)
    (hstrings' : ¬∃ s t, left' = .string s ∧ right' = .string t)
    (hleft : toNumeral left = toNumeral left') (hright : toNumeral right = toNumeral right') :
    applyOperator op left right = applyOperator op left' right' := by
  have horder : order left right = order left' right' := by
    rw [order_eq_of_not_strings hstrings, order_eq_of_not_strings hstrings', hleft, hright]
  cases op with
  | lt | le | gt | ge =>
    rw [applyOperator, applyOperator, compareBy, compareBy, horder]
  | add =>
    rw [applyOperator, applyOperator, plus_eq_arithmetic hstrings, plus_eq_arithmetic hstrings']
    exact arithmetic_congr .add hleft hright
  | sub | mul | div | pow =>
    rw [applyOperator, applyOperator]
    exact arithmetic_congr _ hleft hright
  | mod => exact absurd rfl hmod
  | _ => cases hop

end Operators

/-! ## Strings in place of integers -/

section Spelled

variable {op : Operator} {s : String} {n : Int64} {x : Value}

theorem applyOperator_of_spells_left (hop : op.takesNumbers = true) (hs : SpellsInteger s n)
    (hx : ∀ t, x ≠ .string t) :
    applyOperator op (.string s) x = applyOperator op (.integer n) x := by
  by_cases hmod : op = .mod
  · subst hmod
    rw [applyOperator, applyOperator, remainder, remainder, toInteger_of_spells hs,
      toInteger_integer]
  · exact applyOperator_congr hop hmod (not_strings_of_right hx _) (not_strings_of_right hx _)
      (toNumeral_of_spells hs) rfl

/-- The integer on the right is looked at alone, but for the one fault that names the operand. -/
theorem remainder_of_right {right : Value} (hright : toInteger right = .ok n) :
    remainder x right = (do
      let a ← toInteger x
      if n = 0 then throw .divisionByZero
      else if a = Int64.minValue ∧ n = -1 then throw (unfit .integer right)
      else return .integer (Int64.ofInt (a.toInt.tmod n.toInt))) := by
  rw [remainder, hright]
  rfl

theorem remainder_eq_ok {right : Value} (hright : toInteger right = .ok n) {result : Value} :
    remainder x right = .ok result ↔ ∃ a, toInteger x = .ok a ∧ n ≠ 0 ∧
      ¬(a = Int64.minValue ∧ n = -1) ∧ .integer (Int64.ofInt (a.toInt.tmod n.toInt)) = result := by
  rw [remainder_of_right hright, bind_eq_ok]
  refine exists_congr fun a => and_congr_right fun _ => ?_
  by_cases hzero : n = 0
  · rw [if_pos hzero]
    exact ⟨nofun, fun h => absurd hzero h.1⟩
  · rw [if_neg hzero]
    by_cases hover : a = Int64.minValue ∧ n = -1
    · rw [if_pos hover]
      exact ⟨nofun, fun h => absurd hover h.2.1⟩
    · rw [if_neg hover, pure_eq_ok]
      exact ⟨fun h => ⟨hzero, hover, h⟩, fun h => h.2.2⟩

theorem remainder_of_spells (hs : SpellsInteger s n)
    (hover : ¬(toInteger x = .ok Int64.minValue ∧ n = -1)) :
    remainder x (.string s) = remainder x (.integer n) := by
  rw [remainder_of_right (toInteger_of_spells hs), remainder_of_right (toInteger_integer n)]
  cases hx : toInteger x with
  | error fault => rfl
  | ok a =>
    have hfits : ¬(a = Int64.minValue ∧ n = -1) := by
      rintro ⟨rfl, hn⟩
      exact hover ⟨hx, hn⟩
    show (if _ then _ else if _ then _ else _) = (if _ then _ else if _ then _ else _)
    rw [if_neg hfits, if_neg hfits]

theorem applyOperator_of_spells_right (hop : op.takesNumbers = true) (hs : SpellsInteger s n)
    (hx : ∀ t, x ≠ .string t) :
    (∀ result, applyOperator op x (.string s) = .ok result ↔
      applyOperator op x (.integer n) = .ok result) ∧
    (¬(op = .mod ∧ toInteger x = .ok Int64.minValue ∧ n = -1) →
      applyOperator op x (.string s) = applyOperator op x (.integer n)) := by
  by_cases hmod : op = .mod
  · subst hmod
    refine ⟨fun result => ?_, fun hover => remainder_of_spells hs fun h => hover ⟨rfl, h⟩⟩
    rw [applyOperator, applyOperator, remainder_eq_ok (toInteger_of_spells hs),
      remainder_eq_ok (toInteger_integer n)]
  · have heq : applyOperator op x (.string s) = applyOperator op x (.integer n) :=
      applyOperator_congr hop hmod (not_strings_of_left hx _) (not_strings_of_left hx _) rfl
        (toNumeral_of_spells hs)
    exact ⟨fun result => by rw [heq], fun _ => heq⟩

end Spelled

end Value

namespace Walk

/-- A string that spells an integer, with white space around it or without, acts as the integer in all
arithmetic and all comparisons of order with something that is no string. On the left it gives the same
result or the same fault. On the right it gives the same result too, and the same fault but for one: the
remainder of the least integer and minus one names the operand that it was given. -/
theorem evaluate_binary_of_spells (w : Walk) {op : Operator} (hop : op.takesNumbers = true)
    {s : String} {n : Int64} (hs : SpellsInteger s n) {text number other : Expr} {v x : Value}
    (htext : w.evaluate text v = .ok (.string s)) (hnumber : w.evaluate number v = .ok (.integer n))
    (hother : w.evaluate other v = .ok x) (hx : ∀ t, x ≠ .string t) :
    w.evaluate (.binary op text other) v = w.evaluate (.binary op number other) v ∧
    (∀ result, w.evaluate (.binary op other text) v = .ok result ↔
      w.evaluate (.binary op other number) v = .ok result) ∧
    (¬(op = .mod ∧ x.toInteger = .ok Int64.minValue ∧ n = -1) →
      w.evaluate (.binary op other text) v = w.evaluate (.binary op other number) v) := by
  have hand : op ≠ .and := by rintro rfl; cases hop
  have hor : op ≠ .or := by rintro rfl; cases hop
  rw [w.evaluate_binary_of_ne hand hor htext hother,
    w.evaluate_binary_of_ne hand hor hnumber hother,
    w.evaluate_binary_of_ne hand hor hother htext,
    w.evaluate_binary_of_ne hand hor hother hnumber]
  exact ⟨Value.applyOperator_of_spells_left hop hs hx, Value.applyOperator_of_spells_right hop hs hx⟩

/-- The number has no double, and keeps all its digits. -/
theorem evaluate_binary_of_spells_of_product :
    SpellsInteger "\t-9007199254740993\u00a0" (-9007199254740993) ∧
    (start .standard .null).evaluate (.binary .mul
        (.literal (.string "\t-9007199254740993\u00a0")) (.literal (.integer 3))) .null =
      .ok (.integer (-27021597764222979)) ∧
    (start .standard .null).evaluate (.binary .mul
        (.literal (.integer 3)) (.literal (.string "\t-9007199254740993\u00a0"))) .null =
      .ok (.integer (-27021597764222979)) := by
  have hs : SpellsInteger "\t-9007199254740993\u00a0" (-9007199254740993) :=
    ⟨['\t'], ['\u00a0'], rfl, rfl, by decide⟩
  obtain ⟨hleft, hright, -⟩ := @evaluate_binary_of_spells (start .standard .null) .mul rfl _ _ hs
    (.literal (.string "\t-9007199254740993\u00a0")) (.literal (.integer (-9007199254740993)))
    (.literal (.integer 3)) .null (.integer 3) rfl rfl rfl nofun
  refine ⟨hs, hleft.trans ?_, (hright _).2 ?_⟩
  · rfl
  · rfl

end Walk

end PathQuery
