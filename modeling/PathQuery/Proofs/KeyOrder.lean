import PathQuery.Proofs.WalkStep

/-!
# Objects as arrays

Where objects can be indexed, an object is the array of its values in key order to every segment
that goes by position: a wildcard, a filter, an index, a slice and a union of indices. They find the
same values in both, and where they fail, they fail alike.
-/

namespace PathQuery

open Outcome

/-- Whether the end of a slice is written out. -/
def Bound.isLiteral : Bound → Bool
  | .literal _ => true
  | .computed _ => false

/-- Whether a member of a union is a plain index. -/
def Member.isIndex : Member → Bool
  | .index _ => true
  | _ => false

/-- Whether a segment goes by position and needs no expression for it. -/
def Segment.isPositional : Segment → Bool
  | .wildcard | .index _ | .filter _ => true
  | .range start stop step => [start, stop, step].all fun bound => bound.all Bound.isLiteral
  | .union members => members.all Member.isIndex
  | _ => false

namespace Value

variable (fields : List (String × Value))

/-- The array of the values of an object, in key order. -/
def valuesArray : Value :=
  .array (Fields.values fields)

theorem element_object (n : Int64) :
    (object fields).element true n = (valuesArray fields).element true n := by
  rw [valuesArray, element, element, Fields.length_values]
  rfl

theorem sliceSize_object :
    (object fields).sliceSize true = (valuesArray fields).sliceSize true := by
  rw [valuesArray, sliceSize, sliceSize, Fields.length_values]
  rfl

/-- Indices choose the same from the fields of an object as from the elements of an array. -/
theorem chooseFields_index (ns : List Int64) :
    chooseFields true fields (ns.map .index) =
      ((ns.map .index).mapM (chooseItem (Fields.values fields))).map (·, []) := by
  induction ns with
  | nil => rfl
  | cons n ns ih =>
    -- both look up the first place before the others, so that they report the same bad index
    have hlength := Fields.length_values fields
    rw [List.map_cons, chooseFields, if_pos rfl, ih, List.mapM_cons, chooseItem, hlength]
    cases hplace : position n fields.length with
    | error fault => rfl
    | ok place =>
      have hlt : place < (Fields.values fields).length := hlength ▸ position_lt hplace
      cases (ns.map Choice.index).mapM (chooseItem (Fields.values fields)) with
      | error fault => rfl
      | ok found =>
        show Except.ok ((Fields.values fields)[place]?.toList ++ found, []) =
          .ok ((Fields.values fields)[place]?.getD .null :: found, [])
        rw [List.getElem?_eq_getElem hlt]
        rfl

theorem choose_object (ns : List Int64) :
    (object fields).choose true (ns.map .index) =
      (valuesArray fields).choose true (ns.map .index) := by
  rw [valuesArray, choose, choose, chooseFields_index]
  cases (ns.map Choice.index).mapM (chooseItem (Fields.values fields)) <;> rfl

end Value

namespace Walk

variable (w : Walk)

theorem bound_eq_of_isLiteral (slot : Slot) {bound : Option Bound}
    (h : bound.all Bound.isLiteral = true) (v v' : Value) :
    w.bound slot v bound = w.bound slot v' bound := by
  match bound with
  | none | some (.literal n) => rw [Walk.bound, Walk.bound]
  | some (.computed expr) => cases h

theorem exists_choices_eq_of_isIndex {members : List Member}
    (h : members.all Member.isIndex = true) :
    ∃ ns : List Int64, ∀ v, w.choices v members = .ok (ns.map .index) := by
  induction members with
  | nil => exact ⟨[], fun v => by rw [choices]; rfl⟩
  | cons member members ih =>
    obtain ⟨hmember, hmembers⟩ := Bool.and_eq_true_iff.1 h
    obtain ⟨ns, hns⟩ := ih hmembers
    cases member with
    | index n => exact ⟨n :: ns, fun v => by rw [choices, hns v]; rfl⟩
    | key name => cases hmember
    | computed expr => cases hmember

section Indexed

variable {w} (hw : w.indexObjects = true) (fields : List (String × Value))

include hw

theorem slice_object {start stop step : Option Bound}
    (hbounds : ([start, stop, step].all fun bound => bound.all Bound.isLiteral) = true) :
    w.slice (.object fields) start stop step = w.slice (.valuesArray fields) start stop step := by
  have hbound (slot : Slot) {bound : Option Bound} (hmem : bound ∈ [start, stop, step]) :
      w.bound slot (.object fields) bound = w.bound slot (.valuesArray fields) bound :=
    w.bound_eq_of_isLiteral slot (List.all_eq_true.1 hbounds bound hmem) _ _
  rw [slice, slice, hw, Value.sliceSize_object, hbound .rangeStart (by simp),
    hbound .rangeStop (by simp), hbound .rangeStep (by simp)]
  rfl

/-- A segment that goes by position finds in an object what it finds in the array of its values. -/
theorem find_object {s : Segment} (hs : s.isPositional = true) :
    w.find (.object fields) s = w.find (.valuesArray fields) s := by
  cases s with
  | wildcard | filter text => rfl
  | index n => rw [find, find, hw, Value.element_object]
  | range start stop step => exact slice_object hw fields hs
  | union members =>
    obtain ⟨ns, hns⟩ := w.exists_choices_eq_of_isIndex hs
    rw [find, find, hw, hns, hns]
    show (do return Found.many (← (Value.object fields).choose true (ns.map .index))) = _
    rw [Value.choose_object]
    rfl
  | _ => cases hs

/-- With objects indexed, walking an object by position is walking the array of its values in key
order, whatever comes behind; where the one fails, the other fails with the same fault. -/
theorem apply_object_eq_array {s : Segment} (hs : s.isPositional = true) (rest : List Segment) :
    w.apply (s :: rest) (.object fields) =
      w.apply (s :: rest) (.array (Fields.values fields)) := by
  rw [apply_cons, apply_cons, find_object hw fields hs]
  rfl

end Indexed

/-- An index beyond the end fails in an object as it does in an array. -/
theorem apply_object_eq_array_union :
    (start { Settings.standard with indexObjects := true } .null).indexObjects = true ∧
    (Segment.union [.index (-1), .index 2]).isPositional = true ∧
    (start { Settings.standard with indexObjects := true } .null).apply
      [.union [.index (-1), .index 2], .index 0] (.object [("a", .null), ("b", .bool true)]) =
        .error (.indexOutOfRange 2 2) := by
  refine ⟨rfl, rfl, ?_⟩
  rw [apply_object_eq_array rfl [("a", .null), ("b", .bool true)] rfl]
  with_unfolding_all rfl

end Walk

end PathQuery
