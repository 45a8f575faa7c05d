import PathQuery.Query.Basic
import PathQuery.Value.Equality

/-!
# Equality of queries

Queries and expressions are compared part by part. Floats compare as numbers.
-/

namespace PathQuery

/-- Equality of constants. -/
def Literal.beq : Literal → Literal → Bool
  | .null, .null => true
  | .bool a, .bool b => a == b
  | .integer a, .integer b => a == b
  | .float a, .float b => a == b
  | .string a, .string b => a == b
  | .json a, .json b => a == b
  | _, _ => false

mutual

/-- Equality of expressions. -/
def Expr.beq : Expr → Expr → Bool
  | .literal a, .literal b => a.beq b
  | .selector a p, .selector b q => a == b && Segment.beqList p q
  | .unary a x, .unary b y => a == b && x.beq y
  | .binary a w x, .binary b y z => a == b && w.beq y && x.beq z
  | _, _ => false

/-- Equality of segments. -/
def Segment.beq : Segment → Segment → Bool
  | .root, .root => true
  | .current, .current => true
  | .wildcard, .wildcard => true
  | .descent, .descent => true
  | .key a, .key b => a == b
  | .index a, .index b => a == b
  | .length, .length => true
  | .range a b c, .range x y z => Bound.beqOption a x && Bound.beqOption b y && Bound.beqOption c z
  | .union a, .union b => Member.beqList a b
  | .filter a, .filter b => a == b
  | .script a, .script b => a.beq b
  | _, _ => false

/-- Equality of lists of segments. -/
def Segment.beqList : List Segment → List Segment → Bool
  | [], [] => true
  | a :: as, b :: bs => a.beq b && Segment.beqList as bs
  | _, _ => false

/-- Equality of ends of a slice. -/
def Bound.beq : Bound → Bound → Bool
  | .literal a, .literal b => a == b
  | .computed a, .computed b => a.beq b
  | _, _ => false

/-- Equality of ends of a slice that may be absent. -/
def Bound.beqOption : Option Bound → Option Bound → Bool
  | none, none => true
  | some a, some b => a.beq b
  | _, _ => false

/-- Equality of members of a union. -/
def Member.beq : Member → Member → Bool
  | .index a, .index b => a == b
  | .key a, .key b => a == b
  | .computed a, .computed b => a.beq b
  | _, _ => false

/-- Equality of lists of members. -/
def Member.beqList : List Member → List Member → Bool
  | [], [] => true
  | a :: as, b :: bs => a.beq b && Member.beqList as bs
  | _, _ => false

end

instance : BEq Literal := ⟨Literal.beq⟩
instance : BEq Expr := ⟨Expr.beq⟩
instance : BEq Segment := ⟨Segment.beq⟩

end PathQuery
