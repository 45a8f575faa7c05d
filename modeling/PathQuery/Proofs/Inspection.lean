import PathQuery.Query.Basic

/-!
# Looking at every part of a query

A property of queries is often asked of each part wherever it is nested: in the operands of an
operator, in the selectors of an expression, and in the scripts, unions and slices of a path.
An `Inspection` says what is asked of one part, and `Expr.Passes` asks it of all of them.
-/

namespace PathQuery

/-- What is asked of each expression, segment and query. -/
structure Inspection where
  expr : Expr → Prop := fun _ => True
  segment : Segment → Prop := fun _ => True
  query : Query → Prop := fun _ => True

/-- The expression of an end of a slice, if it has one. -/
def Bound.expr? : Bound → Option Expr
  | .literal _ => none
  | .computed expr => some expr

/-- The expression of a member of a union, if it has one. -/
def Member.expr? : Member → Option Expr
  | .computed expr => some expr
  | _ => none

/-- The expressions that stand in a segment. The text of a filter is not one of them. -/
def Segment.exprs : Segment → List Expr
  | .range start stop step => [start, stop, step].filterMap fun bound => bound.bind Bound.expr?
  | .union members => members.filterMap Member.expr?
  | .script expr => [expr]
  | _ => []

/-- An expression passes an inspection with all that is nested in it. -/
inductive Expr.Passes (i : Inspection) : Expr → Prop
  | literal {value : Literal} : i.expr (.literal value) → Passes i (.literal value)
  | selector {anchor : Anchor} {path : Query} : i.expr (.selector anchor path) → i.query path →
      (∀ segment ∈ path, i.segment segment) →
      (∀ segment ∈ path, ∀ expr ∈ segment.exprs, Passes i expr) →
      Passes i (.selector anchor path)
  | unary {op : Operator} {operand : Expr} : i.expr (.unary op operand) → Passes i operand →
      Passes i (.unary op operand)
  | binary {op : Operator} {left right : Expr} : i.expr (.binary op left right) →
      Passes i left → Passes i right → Passes i (.binary op left right)

/-- A segment passes an inspection with the expressions in it. -/
structure Segment.Passes (i : Inspection) (s : Segment) : Prop where
  own : i.segment s
  exprs : ∀ expr ∈ s.exprs, expr.Passes i

/-- A query passes an inspection with all its segments. -/
structure Query.Passes (i : Inspection) (q : Query) : Prop where
  own : i.query q
  segments : ∀ segment ∈ q, segment.Passes i

/-- Both of two inspections. -/
def Inspection.and (i j : Inspection) : Inspection where
  expr e := i.expr e ∧ j.expr e
  segment s := i.segment s ∧ j.segment s
  query q := i.query q ∧ j.query q

namespace Expr

variable {i j : Inspection}

theorem Passes.expr {e : Expr} (h : e.Passes i) : i.expr e := by
  cases h <;> assumption

theorem passes_selector_iff {anchor : Anchor} {path : Query} :
    (Expr.selector anchor path).Passes i ↔
      i.expr (.selector anchor path) ∧ Query.Passes i path := by
  constructor
  · intro h
    cases h with
    | selector he hq hs hx => exact ⟨he, hq, fun s hmem => ⟨hs s hmem, hx s hmem⟩⟩
  · rintro ⟨he, hq, hs⟩
    exact .selector he hq (fun s hmem => (hs s hmem).own) fun s hmem => (hs s hmem).exprs

theorem Passes.and {e : Expr} (hi : e.Passes i) (hj : e.Passes j) : e.Passes (i.and j) := by
  induction hi with
  | literal h => exact .literal ⟨h, hj.expr⟩
  | selector h hq hs _ ih =>
    cases hj with
    | selector h' hq' hs' hx' =>
      exact .selector ⟨h, h'⟩ ⟨hq, hq'⟩ (fun s hmem => ⟨hs s hmem, hs' s hmem⟩)
        fun s hmem x hx => ih s hmem x hx (hx' s hmem x hx)
  | unary h _ ih =>
    cases hj with
    | unary h' hx' => exact .unary ⟨h, h'⟩ (ih hx')
  | binary h _ _ ihl ihr =>
    cases hj with
    | binary h' hl' hr' => exact .binary ⟨h, h'⟩ (ihl hl') (ihr hr')

/-- An inspection that asks for less is passed as well. -/
theorem Passes.imp {e : Expr} (he : ∀ e, i.expr e → j.expr e)
    (hs : ∀ s, i.segment s → j.segment s) (hq : ∀ q, i.query q → j.query q) (h : e.Passes i) :
    e.Passes j := by
  induction h with
  | literal h => exact .literal (he _ h)
  | selector h hq' hs' _ ih =>
    exact .selector (he _ h) (hq _ hq') (fun s hmem => hs s (hs' s hmem)) ih
  | unary h _ ih => exact .unary (he _ h) ih
  | binary h _ _ ihl ihr => exact .binary (he _ h) ihl ihr

end Expr

namespace Segment

variable {i j : Inspection} {s : Segment}

/-- A segment that holds no expression. -/
theorem passes_of_exprs_eq_nil (hs : i.segment s) (h : s.exprs = []) : s.Passes i :=
  ⟨hs, fun expr hexpr => by rw [h] at hexpr; cases hexpr⟩

theorem Passes.and (hi : s.Passes i) (hj : s.Passes j) : s.Passes (i.and j) :=
  ⟨⟨hi.own, hj.own⟩, fun x hx => (hi.exprs x hx).and (hj.exprs x hx)⟩

theorem Passes.imp (he : ∀ e, i.expr e → j.expr e) (hs : ∀ s, i.segment s → j.segment s)
    (hq : ∀ q, i.query q → j.query q) (h : s.Passes i) : s.Passes j :=
  ⟨hs s h.own, fun x hx => (h.exprs x hx).imp he hs hq⟩

end Segment

/-- The selector of a field. -/
theorem Expr.passes_field {i : Inspection} {key : String}
    (hfield : i.expr (.selector .current [.current, .key key]))
    (hquery : i.query [.current, .key key]) (hcurrent : i.segment .current)
    (hkey : i.segment (.key key)) : (Expr.selector .current [.current, .key key]).Passes i := by
  refine passes_selector_iff.2 ⟨hfield, hquery, fun s hs => ?_⟩
  simp only [List.mem_cons, List.not_mem_nil, or_false] at hs
  rcases hs with rfl | rfl
  · exact Segment.passes_of_exprs_eq_nil hcurrent rfl
  · exact Segment.passes_of_exprs_eq_nil hkey rfl

/-- An operation on a field and a constant. -/
theorem Expr.passes_fieldOperation {i : Inspection} {op : Operator} {key : String} {value : Literal}
    (hexpr : i.expr (.binary op (.selector .current [.current, .key key]) (.literal value)))
    (hfield : i.expr (.selector .current [.current, .key key]))
    (hquery : i.query [.current, .key key]) (hcurrent : i.segment .current)
    (hkey : i.segment (.key key)) (hvalue : i.expr (.literal value)) :
    (Expr.binary op (.selector .current [.current, .key key]) (.literal value)).Passes i :=
  .binary hexpr (passes_field hfield hquery hcurrent hkey) (.literal hvalue)

namespace Query

variable {i j : Inspection} {q : Query}

theorem Passes.and (hi : Passes i q) (hj : Passes j q) : Passes (i.and j) q :=
  ⟨⟨hi.own, hj.own⟩, fun s hs => (hi.segments s hs).and (hj.segments s hs)⟩

theorem Passes.imp (he : ∀ e, i.expr e → j.expr e) (hs : ∀ s, i.segment s → j.segment s)
    (hq : ∀ q, i.query q → j.query q) (h : Passes i q) : Passes j q :=
  ⟨hq q h.own, fun s hmem => (h.segments s hmem).imp he hs hq⟩

end Query

end PathQuery
