import PathQuery.Positions
import PathQuery.Query.Basic
import PathQuery.Value.Document

/-!
# Looking into values

What the single steps of a walk find in a value: fields, elements, sizes, slices and everything
below. Each refuses the kinds of value that it has no meaning for.
-/

namespace PathQuery.Value

/-- A value of the wrong kind. -/
def mismatch {α : Type} (operation : Operation) (expected : List Kind) (v : Value) :
    Except EvalFault α :=
  .error (.kindMismatch operation expected v.kind)

/-- The kinds that can be indexed and sliced. -/
def indexable (indexObjects : Bool) : List Kind :=
  if indexObjects then [.array, .string, .object] else [.array, .string]

/-- The field under a name. -/
def field (name : String) (v : Value) : Except EvalFault Value :=
  match v with
  | .object fields =>
    match Fields.get? fields name with
    | some value => .ok value
    | none => .error (.keyNotFound name)
  | _ => v.mismatch .keyLookup [.object]

/-- The element, the character or, if allowed, the field at an index. -/
def element (indexObjects : Bool) (index : Int64) (v : Value) : Except EvalFault Value :=
  match v with
  | .array items => do
    return items[← position index items.length]?.getD .null
  | .string s => do
    return (s.toList[← position index s.toList.length]?.map fun c =>
      Value.string (String.singleton c)).getD .null
  | .object fields =>
    if indexObjects then do
      return (Fields.values fields)[← position index fields.length]?.getD .null
    else v.mismatch .index (indexable indexObjects)
  | _ => v.mismatch .index (indexable indexObjects)

/-- The number of elements, fields or characters; a field of that name counts instead. -/
def measure (v : Value) : Except EvalFault Value :=
  match v with
  | .object fields =>
    .ok ((Fields.get? fields "length").getD (.integer (Int64.ofNat fields.length)))
  | .array items => .ok (.integer (Int64.ofNat items.length))
  | .string s => .ok (.integer (Int64.ofNat s.toList.length))
  | _ => v.mismatch .length [.array, .object, .string]

/-- The elements of an array, or the fields of an object in key order. -/
def members (operation : Operation) (v : Value) : Except EvalFault (List Value) :=
  match v with
  | .array items => .ok items
  | .object fields => .ok (Fields.values fields)
  | _ => v.mismatch operation [.array, .object]

/-- The number of positions that a slice of a value selects from. -/
def sliceSize (indexObjects : Bool) (v : Value) : Except EvalFault Nat :=
  match v with
  | .array items => .ok items.length
  | .string s => .ok s.toList.length
  | .object fields =>
    if indexObjects then .ok fields.length else v.mismatch .range (indexable indexObjects)
  | _ => v.mismatch .range (indexable indexObjects)

/-- What a slice selects: elements of a collection, or a part of a string. -/
inductive Part where
  | items (items : List Value)
  | text (s : String)

/-- The elements or characters at some positions. -/
def select (positions : List Nat) (v : Value) : Part :=
  match v with
  | .array items => .items (positions.filterMap (items[·]?))
  | .string s => .text (String.ofList (positions.filterMap (s.toList[·]?)))
  | .object fields => .items (positions.filterMap ((Fields.values fields)[·]?))
  | _ => .items []

mutual

/-- A value and everything below it, each value before what is below it. -/
def descendants : Value → List Value
  | .array items => .array items :: descendantsOfItems items
  | .object fields => .object fields :: descendantsOfFields fields
  | v => [v]

/-- Everything in and below the elements of an array. -/
def descendantsOfItems : List Value → List Value
  | [] => []
  | item :: rest => descendants item ++ descendantsOfItems rest

/-- Everything in and below the fields of an object. -/
def descendantsOfFields : List (String × Value) → List Value
  | [] => []
  | (_, field) :: rest => descendants field ++ descendantsOfFields rest

end

/-- A member of a union whose expression has been evaluated. -/
inductive Choice where
  | index (position : Int64)
  | key (name : String)
deriving DecidableEq, Repr

/-- Uses a result as a key or an index. -/
def toChoice (v : Value) : Except EvalFault Choice :=
  match v with
  | .string name => .ok (.key name)
  | _ =>
    match v.asInt? with
    | some n => .ok (.index n)
    | none => .error (.unexpectedResult .subscript (toString v))

/-- The element that one member of a union chooses from an array. -/
def chooseItem (items : List Value) : Choice → Except EvalFault Value
  | .index n => do return items[← position n items.length]?.getD .null
  | .key _ => (Value.array items).mismatch .unionKey [.object]

/-- The fields that the members of a union choose from an object, and the keys that are
missing. -/
def chooseFields (indexObjects : Bool) (fields : List (String × Value)) :
    List Choice → Except EvalFault (List Value × List String)
  | [] => .ok ([], [])
  | .key name :: rest => do
    let (found, missing) ← chooseFields indexObjects fields rest
    match Fields.get? fields name with
    | some value => return (value :: found, missing)
    | none => return (found, name :: missing)
  | .index n :: rest =>
    if indexObjects then do
      let place ← position n fields.length
      let (found, missing) ← chooseFields indexObjects fields rest
      return ((Fields.values fields)[place]?.toList ++ found, missing)
    else (Value.object fields).mismatch .unionIndex [.array]

/-- What the members of a union choose, in their order. All missing keys are reported
together, but only if nothing else is wrong. -/
def choose (indexObjects : Bool) (choices : List Choice) (v : Value) :
    Except EvalFault (List Value) :=
  match v with
  | .array items => choices.mapM (chooseItem items)
  | .object fields => do
    let (found, missing) ← chooseFields indexObjects fields choices
    if missing.isEmpty then return found else throw (.keysNotFound missing)
  | _ => v.mismatch .union [.array, .object]

end PathQuery.Value
