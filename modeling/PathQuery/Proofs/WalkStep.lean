import PathQuery.Proofs.Outcome
import PathQuery.Walk.Evaluate

/-!
# One step of a walk

A segment finds one value or several, or it fails. What it finds is passed on to the rest of the
query, and this does not depend on how it was found: one value is walked on from, and of several
values the results are collected. `apply_cons` says so for every segment, so that facts about walks
need to look at `find` and `passOn` only.
-/

namespace PathQuery

open Outcome

/-- What a segment finds in a value. -/
inductive Walk.Found where
  | one (v : Value)
  | many (items : List Value)

/-- The values that a computation gives for some of the items, in their order. -/
def Walk.successes (next : Value → Except EvalFault Value) (items : List Value) : List Value :=
  items.filterMap fun item => (next item).toOption

/-- What a value stands for in the result of a descent: an array for its elements. -/
def Value.spliced : Value → List Value
  | .array items => items
  | v => [v]

/-- How the results behind a segment become one list. Those behind a descent are spliced. -/
def Segment.collect (segment : Segment) (results : List Value) : List Value :=
  match segment with
  | .descent => results.flatMap Value.spliced
  | _ => results

namespace Walk

/-- What a subscript finds, be it written or computed. -/
def subscript (w : Walk) (v : Value) : Value.Choice → Except EvalFault Value
  | .key name => v.field name
  | .index n => v.element w.indexObjects n

/-- What a slice finds. A part of a string is one value. -/
def slice (w : Walk) (v : Value) (start stop step : Option Bound) : Except EvalFault Found := do
  let size ← v.sliceSize w.indexObjects
  let start ← w.bound .rangeStart v start
  let stop ← w.bound .rangeStop v stop
  let step ← w.bound .rangeStep v step
  match v.select (← Slice.positions size start stop (step.getD 1)) with
  | .items items => return .many items
  | .text s => return .one (.string s)

/-- What a segment finds in a value. -/
def find (w : Walk) (v : Value) : Segment → Except EvalFault Found
  | .root => .ok (.one w.root)
  | .current => .ok (.one v)
  | .wildcard => (v.members .wildcard).map .many
  | .descent => .ok (.many v.descendants)
  | .key name => (v.field name).map .one
  | .index n => (v.element w.indexObjects n).map .one
  | .length => v.measure.map .one
  | .range start stop step => w.slice v start stop step
  | .union members => do return .many (← v.choose w.indexObjects (← w.choices v members))
  | .filter text => do return .many (← w.filter text (← v.members .filter))
  | .script expr => do return .one (← w.subscript v (← (← w.evaluate expr v).toChoice))

/-- Passes on what a segment found to the rest of the query. -/
def passOn (w : Walk) (segment : Segment) (rest : List Segment) : Found → Except EvalFault Value
  | .one v => w.apply rest v
  | .many items =>
    match rest with
    | [] => .ok (.array items)
    | next :: _ =>
      if next.isIndex then w.apply rest (.array items)
      else .ok (.array (segment.collect (successes (w.apply rest) items)))

theorem flatMap_contribution (next : Value → Except EvalFault Value) (items : List Value) :
    (items.flatMap fun item => contribution (next item)) =
      (successes next items).flatMap Value.spliced := by
  induction items with
  | nil => rfl
  | cons item items ih =>
    rw [List.flatMap_cons, ih, successes, successes, List.filterMap_cons]
    cases next item with
    | error fault => rfl
    | ok v => cases v <;> rfl

theorem spread_eq_passOn (w : Walk) {segment : Segment} (h : segment.collect = id)
    (rest : List Segment) (items : List Value) :
    spread rest (w.apply rest) items = w.passOn segment rest (.many items) := by
  cases rest with
  | nil => rfl
  | cons next rest =>
    rw [passOn, h]
    rfl

theorem spreadDescent_eq_passOn (w : Walk) (rest : List Segment) (items : List Value) :
    spreadDescent rest (w.apply rest) items = w.passOn .descent rest (.many items) := by
  cases rest with
  | nil => rfl
  | cons next rest =>
    rw [spreadDescent, flatMap_contribution]
    rfl

/-- A walk finds what its first segment stands for, and passes it on. -/
theorem apply_cons (w : Walk) (segment : Segment) (rest : List Segment) (v : Value) :
    w.apply (segment :: rest) v = (do w.passOn segment rest (← w.find v segment)) := by
  cases segment with
  | root | current => rw [apply]; rfl
  | wildcard =>
    rw [apply, find]
    cases v.members .wildcard with
    | error fault => rfl
    | ok items => exact w.spread_eq_passOn rfl rest items
  | descent =>
    rw [apply]
    exact w.spreadDescent_eq_passOn rest v.descendants
  | key name =>
    rw [apply, find]
    cases v.field name <;> rfl
  | index n =>
    rw [apply, find]
    cases v.element w.indexObjects n <;> rfl
  | length =>
    rw [apply, find]
    cases v.measure <;> rfl
  | range start stop step =>
    rw [apply, find, slice]
    simp only [bind_assoc]
    refine bind_congr fun size => bind_congr fun start => bind_congr fun stop =>
      bind_congr fun step => bind_congr fun positions => ?_
    cases v.select positions with
    | items items => exact w.spread_eq_passOn rfl rest items
    | text s => rfl
  | union members =>
    rw [apply, find]
    simp only [bind_assoc]
    refine bind_congr fun choices => bind_congr fun items => ?_
    exact w.spread_eq_passOn rfl rest items
  | filter text =>
    rw [apply, find]
    simp only [bind_assoc]
    refine bind_congr fun items => bind_congr fun kept => ?_
    exact w.spread_eq_passOn rfl rest kept
  | script expr =>
    rw [apply, find]
    simp only [bind_assoc]
    refine bind_congr fun result => bind_congr fun choice => ?_
    cases choice with
    | key name => cases v.field name <;> rfl
    | index n => cases v.element w.indexObjects n <;> rfl

/-- A slice finds elements, or a part of a string as one value. -/
theorem exists_select_of_slice {w : Walk} {v : Value} {start stop step : Option Bound} {found : Found}
    (h : w.slice v start stop step = .ok found) :
    ∃ positions, (∃ items, v.select positions = .items items ∧ found = .many items) ∨
      ∃ s, v.select positions = .text s ∧ found = .one (.string s) := by
  obtain ⟨size, -, h⟩ := bind_eq_ok.1 h
  obtain ⟨first, -, h⟩ := bind_eq_ok.1 h
  obtain ⟨last, -, h⟩ := bind_eq_ok.1 h
  obtain ⟨stride, -, h⟩ := bind_eq_ok.1 h
  obtain ⟨positions, -, h⟩ := bind_eq_ok.1 h
  refine ⟨positions, ?_⟩
  cases hselect : v.select positions with
  | items items =>
    rw [hselect] at h
    exact .inl ⟨items, rfl, (pure_eq_ok.1 h).symm⟩
  | text s =>
    rw [hselect] at h
    exact .inr ⟨s, rfl, (pure_eq_ok.1 h).symm⟩

/-- A filter at the end of a query gives the array of what it keeps. -/
theorem apply_filter (w : Walk) {v : Value} {items : List Value}
    (h : v.members .filter = .ok items) (text : String) :
    w.apply [.filter text] v = (w.filter text items).map .array := by
  rw [apply, h]
  change (do spread [] (w.apply []) (← w.filter text items)) = _
  cases w.filter text items <;> rfl

end Walk

end PathQuery
