import PathQuery.Host.Basic

/-!
# Native data

Hosts put together from plain data: scalars, lists, tables, optional data, and whole values or
documents. Sequences may have gaps and records may name a field twice, as hosts that are
written by hand can.
-/

namespace PathQuery

/-- Data that is read as a host. -/
inductive Native where
  | null
  /-- A scalar, which may fail to say what it is. -/
  | scalar (value : Option Value)
  /-- A sequence that claims a length of its own and may lack elements. -/
  | sequence (items : List (Option Native)) (length : Nat)
  /-- A record, in the order of its fields. -/
  | record (fields : List (String × Option Native))
  /-- A record whose only field `next` is the record itself. -/
  | loop
  | value (v : Value)
  | document (j : Json)
deriving Inhabited

namespace Native

/-- A list without gaps. -/
def ofList (items : List Native) : Native :=
  .sequence (items.map some) items.length

/-- A table with unique names; of a repeated name the last entry counts. -/
def ofTable (entries : List (String × Native)) : Native :=
  .record ((Fields.ofList entries).map fun entry => (entry.1, some entry.2))

/-- Data that may be absent. -/
def ofOption : Option Native → Native
  | some data => data
  | none => .null

/-- A node that tells its kind and nothing else. -/
def ofKind : Host.Kind → Native
  | .null => .null
  | .scalar => .scalar none
  | .sequence => .sequence [] 0
  | .record => .record []

instance : Host Native where
  kind
    | .null => .null
    | .scalar _ => .scalar
    | .sequence _ _ => .sequence
    | .record _ | .loop => .record
    | .value v => Host.kind v
    | .document j => Host.kind j
  scalar
    | .scalar v => v
    | .value v => Host.scalar v
    | .document j => Host.scalar j
    | _ => none
  field data name := match data with
    | .record fields => (Fields.get? fields name).join
    | .loop => if name = "next" then some .loop else none
    | .value v => (Host.field v name).map .value
    | .document j => (Host.field j name).map .document
    | _ => none
  element data i := match data with
    | .sequence items _ => items[i]?.join
    | .value v => (Host.element v i).map .value
    | .document j => (Host.element j i).map .document
    | _ => none
  length
    | .sequence _ length => length
    | .record fields => fields.length
    | .loop => 1
    | .value v => Host.length v
    | .document j => Host.length j
    | _ => 0
  fieldNames
    | .record fields => Fields.keys fields
    | .loop => ["next"]
    | .value v => Host.fieldNames v
    | .document j => Host.fieldNames j
    | _ => []

end Native

end PathQuery
