import Mathlib.Data.List.Forall2
import PathQuery.Proofs.Continuation

/-!
# Computed subscripts

A key, an index or an end of a slice can be written out, or it can be computed by an expression. When
the expression is just the constant, both find the same and both fail alike. The form of a subscript
shows in one place only: a plain index right behind a segment that finds several values applies to all
of them as one array, and a computed index does not. A query may therefore have its subscripts
computed everywhere but there.
-/

namespace PathQuery

/-- The second slot of a slice is the first, or computes the number that the first writes out. -/
inductive Bound.ComputedAs : Option Bound → Option Bound → Prop
  | same (bound : Option Bound) : ComputedAs bound bound
  | literal (n : Int64) : ComputedAs (some (.literal n)) (some (.computed (.literal (.integer n))))

/-- The second member of a union is the first, or computes what the first writes out. -/
inductive Member.ComputedAs : Member → Member → Prop
  | same (member : Member) : ComputedAs member member
  | index (n : Int64) : ComputedAs (.index n) (.computed (.literal (.integer n)))
  | key (name : String) : ComputedAs (.key name) (.computed (.literal (.string name)))

/-- The second segment is the first with some of its subscripts computed. -/
inductive Segment.ComputedAs : Segment → Segment → Prop
  | same (segment : Segment) : ComputedAs segment segment
  | key (name : String) : ComputedAs (.key name) (.script (.literal (.string name)))
  | index (n : Int64) : ComputedAs (.index n) (.script (.literal (.integer n)))
  | range {start stop step start' stop' step' : Option Bound} : Bound.ComputedAs start start' →
      Bound.ComputedAs stop stop' → Bound.ComputedAs step step' →
      ComputedAs (.range start stop step) (.range start' stop' step')
  | union {members members' : List Member} : List.Forall₂ Member.ComputedAs members members' →
      ComputedAs (.union members) (.union members')

/-- The second query is the first with some of its subscripts computed, but no index right behind a
segment that spreads. `behindSpread` tells whether such a segment stands before both queries. -/
inductive Query.ComputedAs : Bool → Query → Query → Prop
  | nil {behindSpread : Bool} : ComputedAs behindSpread [] []
  | cons {behindSpread : Bool} {s t : Segment} {rest rest' : Query} : s.ComputedAs t →
      (behindSpread = true → s.isIndex = true → t = s) → ComputedAs s.isSpread rest rest' →
      ComputedAs behindSpread (s :: rest) (t :: rest')

/-- A segment finds one value or several. -/
theorem Segment.isSpread_eq (s : Segment) : s.isSpread = !s.isDefinite := by
  cases s <;> rfl

namespace Segment.ComputedAs

variable {s t : Segment}

theorem collect_eq (h : s.ComputedAs t) : s.collect = t.collect := by
  cases h <;> rfl

theorem isIndex_eq (h : s.ComputedAs t) (hindex : s.isIndex = false) : t.isIndex = false := by
  cases h with
  | same => exact hindex
  | _ => rfl

end Segment.ComputedAs

/-- Behind a segment that spreads, both queries go on with an index or neither does. -/
theorem Query.ComputedAs.head?_isIndex {q q' : Query} (h : ComputedAs true q q') :
    q'.head?.map Segment.isIndex = q.head?.map Segment.isIndex := by
  cases h with
  | nil => rfl
  | @cons _ s t rest rest' hst hkeep _ =>
    cases hindex : s.isIndex with
    | true => simp [hkeep rfl hindex]
    | false => simp [hst.isIndex_eq hindex, hindex]

namespace Walk

variable (w : Walk)

theorem bound_computedAs (slot : Slot) (v : Value) {bound bound' : Option Bound}
    (h : Bound.ComputedAs bound bound') : w.bound slot v bound' = w.bound slot v bound := by
  cases h with
  | same => rfl
  | literal n => rw [Walk.bound, Walk.bound, evaluate]; rfl

theorem choices_computedAs (v : Value) {members members' : List Member}
    (h : List.Forall₂ Member.ComputedAs members members') :
    w.choices v members' = w.choices v members := by
  induction h with
  | nil => rfl
  | @cons member _ _ _ hmember _ ih =>
    cases hmember with
    | same => cases member <;> rw [choices, choices, ih]
    | index n | key name =>
      rw [choices, choices, ih, evaluate]
      rfl

/-- A segment finds the same, or fails with the same fault, however its subscripts are given. -/
theorem find_computedAs (v : Value) {s t : Segment} (h : s.ComputedAs t) :
    w.find v t = w.find v s := by
  cases h with
  | same => rfl
  | key name =>
    rw [find, find, evaluate]
    show (do return Found.one (← v.field name)) = _
    cases v.field name <;> rfl
  | index n =>
    rw [find, find, evaluate]
    show (do return Found.one (← v.element w.indexObjects n)) = _
    cases v.element w.indexObjects n <;> rfl
  | range hstart hstop hstep =>
    rw [find, find, slice, slice, w.bound_computedAs .rangeStart v hstart,
      w.bound_computedAs .rangeStop v hstop, w.bound_computedAs .rangeStep v hstep]
  | union hmembers => rw [find, find, w.choices_computedAs v hmembers]

/-- Only a segment that spreads finds several values. -/
theorem isSpread_of_find {v : Value} {s : Segment} {items : List Value}
    (h : w.find v s = .ok (.many items)) : s.isSpread = true := by
  cases hdefinite : s.isDefinite with
  | false => rw [s.isSpread_eq, hdefinite, Bool.not_false]
  | true =>
    obtain ⟨x, hx⟩ := exists_of_find_definite hdefinite h
    cases hx

/-- What a segment found is passed on alike to two rests that give the same everywhere, if both or
neither start with an index in case several values were found. -/
theorem passOn_congr {s t : Segment} (hcollect : s.collect = t.collect) {rest rest' : List Segment}
    (hrest : w.apply rest' = w.apply rest) (found : Found)
    (hindex : ∀ items, found = .many items →
      rest'.head?.map Segment.isIndex = rest.head?.map Segment.isIndex) :
    w.passOn t rest' found = w.passOn s rest found := by
  cases found with
  | one v => rw [passOn, passOn, hrest]
  | many items =>
    have hhead := hindex items rfl
    cases rest with
    | nil =>
      cases rest' with
      | nil => rfl
      | cons next' rest' => simp at hhead
    | cons next rest =>
      cases rest' with
      | nil => simp at hhead
      | cons next' rest' =>
        have hnext : next'.isIndex = next.isIndex := by simpa using hhead
        rw [passOn, passOn, hnext, hrest, hcollect]

/-- Computing subscripts from constants changes neither what a query gives nor how it fails, as long
as an index right behind a segment that spreads stays written out. -/
theorem apply_eq_of_computedAs {behindSpread : Bool} {q q' : Query}
    (h : Query.ComputedAs behindSpread q q') (v : Value) : w.apply q' v = w.apply q v := by
  induction h generalizing v with
  | nil => rfl
  | cons hst _ htail ih =>
    rw [apply_cons, apply_cons, w.find_computedAs v hst]
    cases hfind : w.find v _ with
    | error fault => rfl
    | ok found =>
      refine w.passOn_congr hst.collect_eq (funext ih) found fun items hmany => ?_
      have hspread := w.isSpread_of_find (hmany ▸ hfind)
      exact Query.ComputedAs.head?_isIndex (hspread ▸ htail)

/-- Every subscript is computed but the index behind the slice. -/
theorem apply_eq_of_computedAs_mixed :
    Query.ComputedAs false
      [.key "a", .range (some (.literal 1)) none (some (.literal (-1))), .index 0, .index 1,
        .union [.key "k", .index 0]]
      [.script (.literal (.string "a")),
        .range (some (.computed (.literal (.integer 1)))) none
          (some (.computed (.literal (.integer (-1))))),
        .index 0, .script (.literal (.integer 1)),
        .union [.computed (.literal (.string "k")), .computed (.literal (.integer 0))]] ∧
    (start { Settings.standard with indexObjects := true } .null).apply
      [.script (.literal (.string "a")),
        .range (some (.computed (.literal (.integer 1)))) none
          (some (.computed (.literal (.integer (-1))))),
        .index 0, .script (.literal (.integer 1)),
        .union [.computed (.literal (.string "k")), .computed (.literal (.integer 0))]]
      (.object [("a", .array [.null, .array [.null, .object [("k", .bool true)]]])]) =
        .ok (.array [.bool true, .bool true]) := by
  have h : Query.ComputedAs false
      [.key "a", .range (some (.literal 1)) none (some (.literal (-1))), .index 0, .index 1,
        .union [.key "k", .index 0]]
      [.script (.literal (.string "a")),
        .range (some (.computed (.literal (.integer 1)))) none
          (some (.computed (.literal (.integer (-1))))),
        .index 0, .script (.literal (.integer 1)),
        .union [.computed (.literal (.string "k")), .computed (.literal (.integer 0))]] := by
    refine .cons (.key "a") nofun (.cons (.range (.literal 1) (.same _) (.literal (-1))) nofun ?_)
    refine .cons (.same _) (fun _ _ => rfl) (.cons (.index 1) nofun (.cons ?_ nofun .nil))
    exact .union (.cons (.key "k") (.cons (.index 0) .nil))
  refine ⟨h, ?_⟩
  rw [apply_eq_of_computedAs _ h]
  with_unfolding_all rfl

end Walk

end PathQuery
