import PathQuery.Fields
import PathQuery.Number.Integer

/-!
# JSON documents

The tree that a JSON text stands for. Whole numbers of any size are kept apart from floats,
and the members of an object are in key order.
-/

namespace PathQuery

/-- A JSON document. -/
inductive Json where
  | null
  | bool (value : Bool)
  | integer (value : Int)
  | float (value : Float)
  | string (value : String)
  | array (items : List Json)
  | object (members : List (String × Json))
deriving Inhabited

namespace Json

/-- The number for a 64-bit integer. -/
def ofInt64 (n : Int64) : Json :=
  .integer n.toInt

/-- The number for a float; there is none for those that are not finite. -/
def ofFloat? (x : Float) : Option Json :=
  if x.isFinite then some (.float x) else none

/-- A number as a 64-bit integer, if it is a whole number of that size. -/
def asInt64? : Json → Option Int64
  | .integer n => Number.ofInt? n
  | _ => none

/-- A number as a float, the nearest one if it is a whole number. -/
def asFloat? : Json → Option Float
  | .integer n => some (Float.ofInt n)
  | .float x => some x
  | _ => none

end Json

end PathQuery
