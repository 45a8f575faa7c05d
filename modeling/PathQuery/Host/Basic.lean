import PathQuery.Walk.Evaluate

/-!
# Hosts

A host is a tree that is not made of values: whatever can tell its kind and, by kind, its
scalar, its elements or its fields. A query runs over the copy that `Value.ofHost` makes of it.
A host may contain itself, so the copy stops at a limit on the depth.
-/

namespace PathQuery

/-- What a node of a host is. -/
inductive Host.Kind where
  | null
  | scalar
  | sequence
  | record
deriving DecidableEq, Repr

/-- The name of a kind. -/
def Host.Kind.name : Host.Kind → String
  | .null => "Null"
  | .scalar => "Scalar"
  | .sequence => "Sequence"
  | .record => "Record"

/-- A type whose members can be read as nodes of a tree. A node answers the questions that
belong to its kind; to the others it need not. -/
class Host (σ : Type u) where
  kind : σ → Host.Kind
  scalar : σ → Option Value := fun _ => none
  field : σ → String → Option σ := fun _ _ => none
  element : σ → Nat → Option σ := fun _ _ => none
  length : σ → Nat := fun _ => 0
  fieldNames : σ → List String := fun _ => []

namespace Host

variable {σ : Type u} [Host σ]

/-- Copies the elements of a sequence; one that is missing is null. -/
def copyElements (copy : σ → Except EvalFault Value) (host : σ) :
    Except EvalFault (List Value) :=
  (List.range (Host.length host)).mapM fun i =>
    match Host.element host i with
    | some item => copy item
    | none => .ok .null

/-- Copies the fields of a record under the names given; one that is missing is left out. -/
def copyFields (copy : σ → Except EvalFault Value) (host : σ) (fields : Fields Value) :
    List String → Except EvalFault (Fields Value)
  | [] => .ok fields
  | name :: rest =>
    match Host.field host name with
    | none => copyFields copy host fields rest
    | some field => do copyFields copy host (fields.insert name (← copy field)) rest

/-- Copies a node, if its depth is among the `levels` that are left. -/
def copy (limit : Nat) : Nat → σ → Except EvalFault Value
  | 0, _ => .error (.tooDeep limit)
  | levels + 1, host =>
    match Host.kind host with
    | .null => .ok .null
    | .scalar => .ok ((Host.scalar host).getD .null)
    | .sequence => (copyElements (copy limit levels) host).map .array
    | .record => (copyFields (copy limit levels) host [] (Host.fieldNames host)).map .object

end Host

/-- Copies a host. A node may lie at most `limit` levels below the top. -/
def Value.ofHost {σ : Type u} [Host σ] (limit : Nat) (host : σ) : Except EvalFault Value :=
  Host.copy limit (limit + 1) host

/-- Evaluates a query on a host. -/
def Query.evaluateHost {σ : Type u} [Host σ] (settings : Settings) (query : Query) (host : σ) :
    Except EvalFault Value := do
  query.evaluate settings (← Value.ofHost settings.maxDepth host)

/-- A value is a host: its scalars stand for themselves. -/
instance : Host Value where
  kind
    | .null => .null
    | .array _ => .sequence
    | .object _ => .record
    | _ => .scalar
  scalar
    | .null | .array _ | .object _ => none
    | v => some v
  field v name := match v with
    | .object fields => Fields.get? fields name
    | _ => none
  element v i := match v with
    | .array items => items[i]?
    | _ => none
  length
    | .array items => items.length
    | .object fields => fields.length
    | _ => 0
  fieldNames
    | .object fields => Fields.keys fields
    | _ => []

/-- A document is a host: its scalars are those of its value, null among them. -/
instance : Host Json where
  kind
    | .null => .null
    | .array _ => .sequence
    | .object _ => .record
    | _ => .scalar
  scalar
    | .array _ | .object _ => none
    | j => some (Value.ofJson j)
  field j name := match j with
    | .object members => Fields.get? members name
    | _ => none
  element j i := match j with
    | .array items => items[i]?
    | _ => none
  length
    | .array items => items.length
    | .object members => members.length
    | _ => 0
  fieldNames
    | .object members => Fields.keys members
    | _ => []

end PathQuery
