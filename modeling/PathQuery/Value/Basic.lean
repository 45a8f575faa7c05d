import PathQuery.Fields
import PathQuery.Number.Binary
import PathQuery.Unicode.Space

/-!
# Values

The data that queries walk over. Integers and floats are kept apart, so that a result keeps
the form of its number, while comparisons take every number as a float.
-/

namespace PathQuery

/-- A value of the query language. The fields of an object are in key order. -/
inductive Value where
  | null
  | bool (value : Bool)
  | integer (value : Int64)
  | float (value : Float)
  | string (value : String)
  | array (items : List Value)
  | object (fields : List (String × Value))
deriving Inhabited

namespace Value

open Number Unicode

/-- What an error message says of a value's kind. -/
inductive Kind where
  | null
  | boolean
  | number
  | string
  | array
  | object
deriving DecidableEq, Repr

/-- The name of a kind. -/
def Kind.name : Kind → String
  | .null => "null"
  | .boolean => "boolean"
  | .number => "number"
  | .string => "string"
  | .array => "array"
  | .object => "object"

/-- The kind of a value. -/
def kind : Value → Kind
  | .null => .null
  | .bool _ => .boolean
  | .integer _ | .float _ => .number
  | .string _ => .string
  | .array _ => .array
  | .object _ => .object

/-- Whether a value counts as true: neither null nor false nor a blank string. Numbers are
true even when zero, and so are empty arrays and objects. -/
def isTruthy : Value → Bool
  | .null => false
  | .bool b => b
  | .string s => !isBlank s.toList
  | _ => true

/-- Whether a value is an integer or a float. -/
def isNumber : Value → Bool
  | .integer _ | .float _ => true
  | _ => false

/-- A number as a float. -/
def asFloat? : Value → Option Float
  | .integer n => some (toFloat n)
  | .float x => some x
  | _ => none

/-- An integer, or a float that is whole. -/
def asInt? : Value → Option Int64
  | .integer n => some n
  | .float x => if isWhole x then some (truncate64 x) else none
  | _ => none

/-- The text of a string. -/
def asString? : Value → Option String
  | .string s => some s
  | _ => none

/-- The number of elements, of fields, or of characters. -/
def size? : Value → Option Nat
  | .array items => some items.length
  | .object fields => some fields.length
  | .string s => some s.toList.length
  | _ => none

end Value

end PathQuery
