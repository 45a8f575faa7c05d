import PathQuery.Operator
import PathQuery.Value.Basic

/-!
# Queries and expressions

A query is a list of segments, each of which takes the walk one step further. Segments may
hold expressions, and expressions may hold queries of their own.
-/

namespace PathQuery

/-- A constant of the expression language. -/
inductive Literal where
  | null
  | bool (value : Bool)
  | integer (value : Int64)
  | float (value : Float)
  | string (value : String)
  /-- An array or an object, read when the expression is. -/
  | json (value : Value)
deriving Inhabited

/-- The value of a constant. -/
def Literal.toValue : Literal → Value
  | .null => .null
  | .bool b => .bool b
  | .integer n => .integer n
  | .float x => .float x
  | .string s => .string s
  | .json v => v

mutual

/-- An expression. -/
inductive Expr where
  | literal (value : Literal)
  /-- A query evaluated where the expression is; it starts with its anchor. -/
  | selector (anchor : Anchor) (path : List Segment)
  | unary (op : Operator) (operand : Expr)
  | binary (op : Operator) (left right : Expr)

/-- A step of a query. -/
inductive Segment where
  /-- Back to the document: `$`. -/
  | root
  /-- The value at hand: `@`. -/
  | current
  /-- All elements or fields: `[*]`. -/
  | wildcard
  /-- The value and everything below it: `..`. -/
  | descent
  /-- A field: `['name']`. -/
  | key (name : String)
  /-- An element, counted from the end when negative: `[0]`. -/
  | index (position : Int64)
  /-- The number of elements: `.length`. -/
  | length
  /-- A slice: `[start:stop:step]`. -/
  | range (start stop step : Option Bound)
  /-- Several elements or fields in the order given: `[0,'name']`. -/
  | union (members : List Member)
  /-- The elements that satisfy an expression, which is kept as text: `[?(text)]`. -/
  | filter (text : String)
  /-- The element or field that an expression names: `[(expr)]`. -/
  | script (expr : Expr)

/-- An end or the step of a slice. -/
inductive Bound where
  | literal (value : Int64)
  | computed (expr : Expr)

/-- A member of a union. -/
inductive Member where
  | index (position : Int64)
  | key (name : String)
  | computed (expr : Expr)

end

instance : Inhabited Expr := ⟨.literal .null⟩
instance : Inhabited Segment := ⟨.root⟩
instance : Inhabited Bound := ⟨.literal 0⟩
instance : Inhabited Member := ⟨.index 0⟩

/-- A query. -/
abbrev Query := List Segment

/-- Whether a segment is a plain index. -/
def Segment.isIndex : Segment → Bool
  | .index _ => true
  | _ => false

end PathQuery
