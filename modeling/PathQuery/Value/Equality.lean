import PathQuery.Value.Basic

/-!
# Equality of values

Two relations are in use. `looseEq` is the `==` of the expression language: at any depth,
numbers are equal when their floats are. The `BEq` instance also tells integers from floats.
Both compare floats as numbers, so that zero equals negative zero and no number is unequal to
itself except the one that is none.
-/

namespace PathQuery.Value

open Number

mutual

/-- Equality that takes every number as a float. -/
def looseEq : Value → Value → Bool
  | .null, .null => true
  | .bool a, .bool b => a == b
  | .integer a, .integer b => toFloat a == toFloat b
  | .integer a, .float b => toFloat a == b
  | .float a, .integer b => a == toFloat b
  | .float a, .float b => a == b
  | .string a, .string b => a == b
  | .array a, .array b => looseEqItems a b
  | .object a, .object b => looseEqFields a b
  | _, _ => false

/-- Elementwise `looseEq`. -/
def looseEqItems : List Value → List Value → Bool
  | [], [] => true
  | a :: as, b :: bs => looseEq a b && looseEqItems as bs
  | _, _ => false

/-- Equal keys, and `looseEq` of the values under them. -/
def looseEqFields : List (String × Value) → List (String × Value) → Bool
  | [], [] => true
  | (k, a) :: as, (l, b) :: bs => k == l && looseEq a b && looseEqFields as bs
  | _, _ => false

end

mutual

/-- Equality that tells integers from floats. -/
def strictEq : Value → Value → Bool
  | .null, .null => true
  | .bool a, .bool b => a == b
  | .integer a, .integer b => a == b
  | .float a, .float b => a == b
  | .string a, .string b => a == b
  | .array a, .array b => strictEqItems a b
  | .object a, .object b => strictEqFields a b
  | _, _ => false

/-- Elementwise `strictEq`. -/
def strictEqItems : List Value → List Value → Bool
  | [], [] => true
  | a :: as, b :: bs => strictEq a b && strictEqItems as bs
  | _, _ => false

/-- Equal keys, and `strictEq` of the values under them. -/
def strictEqFields : List (String × Value) → List (String × Value) → Bool
  | [], [] => true
  | (k, a) :: as, (l, b) :: bs => k == l && strictEq a b && strictEqFields as bs
  | _, _ => false

end

instance : BEq Value := ⟨strictEq⟩

end PathQuery.Value
