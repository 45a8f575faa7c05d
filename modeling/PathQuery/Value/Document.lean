import PathQuery.Json.Reader
import PathQuery.Json.Writer
import PathQuery.Value.Basic

/-!
# Values as documents

A value is read from a JSON document and written as one. An integer beyond 64 bits comes in
as the nearest float, and a float that is not finite goes out as null; nothing else changes.
-/

namespace PathQuery.Value

/-- The value of a number: an integer if it is one with 64 bits, and a float otherwise. -/
def ofNumber (j : Json) : Value :=
  match j.asInt64? with
  | some n => .integer n
  | none => j.asFloat?.elim .null .float

mutual

/-- The value of a document. -/
def ofJson : Json → Value
  | .null => .null
  | .bool b => .bool b
  | .integer n => ofNumber (.integer n)
  | .float x => ofNumber (.float x)
  | .string s => .string s
  | .array items => .array (ofItems items)
  | .object members => .object (ofMembers members)

/-- The values of the elements of an array. -/
def ofItems : List Json → List Value
  | [] => []
  | item :: rest => ofJson item :: ofItems rest

/-- The values of the members of an object. -/
def ofMembers : List (String × Json) → List (String × Value)
  | [] => []
  | (key, member) :: rest => (key, ofJson member) :: ofMembers rest

end

mutual

/-- The document of a value. -/
def toJson : Value → Json
  | .null => .null
  | .bool b => .bool b
  | .integer n => .ofInt64 n
  | .float x => (Json.ofFloat? x).getD .null
  | .string s => .string s
  | .array items => .array (toItems items)
  | .object fields => .object (toMembers fields)

/-- The documents of the elements of an array. -/
def toItems : List Value → List Json
  | [] => []
  | item :: rest => toJson item :: toItems rest

/-- The documents of the fields of an object. -/
def toMembers : List (String × Value) → List (String × Json)
  | [] => []
  | (key, field) :: rest => (key, toJson field) :: toMembers rest

end

/-- The compact JSON text of a value. -/
def text (v : Value) : List Char :=
  v.toJson.text

instance : ToString Value := ⟨fun v => String.ofList v.text⟩

/-- Reads a value from JSON text. -/
def ofText? (text : String) : Option Value :=
  (Json.ofString? text).map ofJson

/-- Reads a value from bytes of JSON text. -/
def ofBytes? (bytes : ByteArray) : Option Value :=
  (Json.ofBytes? bytes).map ofJson

end PathQuery.Value
