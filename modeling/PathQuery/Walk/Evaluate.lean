import PathQuery.Expr.Build
import PathQuery.Expr.Operation
import PathQuery.Walk.Access

/-!
# Walking a query

A query is walked segment by segment, each of which passes what it finds to the rest. A
segment that finds several values passes on each of them alone and drops those with which the
rest fails; only an index right behind it applies to all of them as one array.

The text of a filter is built when the walk reaches it. `Walk` therefore carries a function
that applies filters, and `keep` ties the knot: the filters within a filter have shorter texts
than the filter itself.
-/

namespace PathQuery

/-- What stays the same during a walk: the document, whether objects can be indexed, and how
the text of a filter picks from a list of values. -/
structure Walk where
  root : Value
  indexObjects : Bool
  filter : String → List Value → Except EvalFault (List Value)

namespace Walk

/-- Passes several values on to the rest of a query. -/
def spread (rest : List Segment) (next : Value → Except EvalFault Value) (items : List Value) :
    Except EvalFault Value :=
  match rest with
  | [] => .ok (.array items)
  | segment :: _ =>
    if segment.isIndex then next (.array items)
    else .ok (.array (items.filterMap fun item => (next item).toOption))

/-- The values that a result adds to those of a descent: the elements of an array, and
otherwise the result itself. -/
def contribution : Except EvalFault Value → List Value
  | .ok (.array items) => items
  | .ok v => [v]
  | .error _ => []

/-- Passes the values of a descent on to the rest of a query. -/
def spreadDescent (rest : List Segment) (next : Value → Except EvalFault Value)
    (items : List Value) : Except EvalFault Value :=
  match rest with
  | [] => .ok (.array items)
  | segment :: _ =>
    if segment.isIndex then next (.array items)
    else .ok (.array (items.flatMap fun item => contribution (next item)))

/-- Names the slot in which an expression failed. -/
def inSlot {α : Type} (slot : Slot) : Except EvalFault α → Except EvalFault α
  | .ok x => .ok x
  | .error fault => .error (.within slot fault)

/-- Uses a result as an end or the step of a slice. -/
def toBound (v : Value) : Except EvalFault Int64 :=
  match v.asInt? with
  | some n => .ok n
  | none => .error (.unexpectedResult .bound (toString v))

mutual

/-- Walks the segments from a value on. -/
def apply (w : Walk) : List Segment → Value → Except EvalFault Value
  | [], v => .ok v
  | segment :: rest, v =>
    match segment with
    | .root => w.apply rest w.root
    | .current => w.apply rest v
    | .wildcard => do spread rest (w.apply rest) (← v.members .wildcard)
    | .descent => spreadDescent rest (w.apply rest) v.descendants
    | .key name => do w.apply rest (← v.field name)
    | .index n => do w.apply rest (← v.element w.indexObjects n)
    | .length => do w.apply rest (← v.measure)
    | .range start stop step => do
      let size ← v.sliceSize w.indexObjects
      let start ← w.bound .rangeStart v start
      let stop ← w.bound .rangeStop v stop
      let step ← w.bound .rangeStep v step
      match v.select (← Slice.positions size start stop (step.getD 1)) with
      | .items items => spread rest (w.apply rest) items
      | .text s => w.apply rest (.string s)
    | .union members => do
      spread rest (w.apply rest) (← v.choose w.indexObjects (← w.choices v members))
    | .filter text => do
      spread rest (w.apply rest) (← w.filter text (← v.members .filter))
    | .script expr => do
      match ← (← w.evaluate expr v).toChoice with
      | .key name => w.apply rest (← v.field name)
      | .index n => w.apply rest (← v.element w.indexObjects n)

/-- Evaluates an expression at a value. -/
def evaluate (w : Walk) : Expr → Value → Except EvalFault Value
  | .literal value, _ => .ok value.toValue
  | .selector _ path, v => w.apply path v
  | .unary op operand, v => do
    let result ← w.evaluate operand v
    if op = .not then return .bool (!result.isTruthy)
    else throw (.query (.unsupportedOperator (String.ofList op.symbol)))
  | .binary op left right, v => do
    let first ← w.evaluate left v
    if op = .and ∧ !first.isTruthy then return .bool false
    else if op = .or ∧ first.isTruthy then return .bool true
    else
      let second ← w.evaluate right v
      if op = .and ∨ op = .or then return .bool second.isTruthy
      else first.applyOperator op second

/-- The number that an end or the step of a slice stands for, if it is there. -/
def bound (w : Walk) (slot : Slot) (v : Value) : Option Bound → Except EvalFault (Option Int64)
  | none => .ok none
  | some (.literal n) => .ok (some n)
  | some (.computed expr) => do
    let n ← toBound (← inSlot slot (w.evaluate expr v))
    return some n

/-- The keys and indices that the members of a union stand for. -/
def choices (w : Walk) (v : Value) : List Member → Except EvalFault (List Value.Choice)
  | [] => .ok []
  | member :: rest => do
    let choice ← match member with
      | .index n => .ok (.index n)
      | .key name => .ok (.key name)
      | .computed expr => do (← inSlot .unionMember (w.evaluate expr v)).toChoice
    let later ← w.choices v rest
    return choice :: later

end

/-- The values for which an expression holds; a value for which it fails is dropped. -/
def holding (w : Walk) (expr : Expr) (items : List Value) : List Value :=
  items.filter fun item => match w.evaluate expr item with
    | .ok result => result.isTruthy
    | .error _ => false

/-- The values that a filter keeps. A filter that cannot be built keeps nothing. -/
def keep (settings : Settings) (root : Value) (text : String) (items : List Value) :
    Except EvalFault (List Value) :=
  match Expr.ofText settings text with
  | .error _ => .ok []
  | .ok none => .error (.query (.badExpression text .emptyFilter))
  | .ok (some expr) =>
    let w : Walk := ⟨root, settings.indexObjects, fun inner items =>
      if inner.length < text.length then keep settings root inner items else .ok []⟩
    .ok (w.holding expr items)
termination_by text.length

/-- The walk over a document under some settings. -/
def start (settings : Settings) (root : Value) : Walk :=
  ⟨root, settings.indexObjects, keep settings root⟩

end Walk

/-- Evaluates a query on a document. -/
def Query.evaluate (settings : Settings) (query : Query) (document : Value) :
    Except EvalFault Value :=
  (Walk.start settings document).apply query document

/-- Evaluates an expression, with `$` standing for one value and `@` for another. -/
def Expr.evaluate (settings : Settings) (expr : Expr) (root current : Value) :
    Except EvalFault Value :=
  (Walk.start settings root).evaluate expr current

end PathQuery
