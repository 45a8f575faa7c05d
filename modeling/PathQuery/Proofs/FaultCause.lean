import PathQuery.Proofs.WalkStep
import PathQuery.Proofs.WellFormed

/-!
# What evaluation fails with

The operations on values fail with faults of their own, which are no fault of a query's text and have
no cause behind them: these are the plain ones. This holds for any decimals and for any reader of
patterns, of which nothing else is used. Everything else that a walk fails with comes from an operator
that the evaluator does not know, and a well-formed tree has none.
-/

namespace PathQuery

open Outcome

/-- A fault of a single operation on values. -/
def EvalFault.IsPlain : EvalFault → Prop
  | .query _ | .within _ _ => False
  | _ => True

/-- A fault that was not caused by an operator that cannot be applied. -/
def EvalFault.IsSupported (fault : EvalFault) : Prop :=
  ∀ operator, fault.rootCause ≠ .query (.unsupportedOperator operator)

theorem EvalFault.IsPlain.isSupported {fault : EvalFault} (h : fault.IsPlain) :
    fault.IsSupported := by
  intro operator he
  cases fault with
  | query | within => exact h
  | _ => cases he

theorem isSupported_of_isPlain {α : Type} {x : Except EvalFault α}
    (h : FailsOnlyWith EvalFault.IsPlain x) : FailsOnlyWith EvalFault.IsSupported x :=
  h.imp fun _ hfault => hfault.isSupported

/-! ## Operations on values -/

namespace Value

variable (indexObjects : Bool) (v : Value)

theorem mismatch_isPlain {α : Type} (operation : Operation) (expected : List Kind) :
    FailsOnlyWith EvalFault.IsPlain (v.mismatch (α := α) operation expected) :=
  .error trivial

theorem position_isPlain (index : Int64) (size : Nat) :
    FailsOnlyWith EvalFault.IsPlain (position index size) := by
  unfold position
  extract_lets place
  split
  · exact .ok _
  · exact .error trivial

theorem field_isPlain (name : String) : FailsOnlyWith EvalFault.IsPlain (v.field name) := by
  unfold field
  split
  · split
    · exact .ok _
    · exact .error trivial
  · exact mismatch_isPlain v _ _

theorem element_isPlain (n : Int64) :
    FailsOnlyWith EvalFault.IsPlain (v.element indexObjects n) := by
  unfold element
  split
  · exact (position_isPlain n _).bind fun place => .ok _
  · exact (position_isPlain n _).bind fun place => .ok _
  · split
    · exact (position_isPlain n _).bind fun place => .ok _
    · exact mismatch_isPlain _ _ _
  · exact mismatch_isPlain v _ _

theorem measure_isPlain : FailsOnlyWith EvalFault.IsPlain v.measure := by
  unfold measure
  split
  · exact .ok _
  · exact .ok _
  · exact .ok _
  · exact mismatch_isPlain v _ _

theorem members_isPlain (operation : Operation) :
    FailsOnlyWith EvalFault.IsPlain (v.members operation) := by
  unfold members
  split
  · exact .ok _
  · exact .ok _
  · exact mismatch_isPlain v _ _

theorem sliceSize_isPlain : FailsOnlyWith EvalFault.IsPlain (v.sliceSize indexObjects) := by
  unfold sliceSize
  split
  · exact .ok _
  · exact .ok _
  · split
    · exact .ok _
    · exact mismatch_isPlain _ _ _
  · exact mismatch_isPlain v _ _

theorem positions_isPlain (size : Nat) (start stop : Option Int64) (step : Int64) :
    FailsOnlyWith EvalFault.IsPlain (Slice.positions size start stop step) := by
  unfold Slice.positions
  extract_lets start stop
  split
  · exact .ok _
  · split
    · exact .ok _
    · exact .error trivial

theorem toChoice_isPlain : FailsOnlyWith EvalFault.IsPlain v.toChoice := by
  unfold toChoice
  split
  · exact .ok _
  · split
    · exact .ok _
    · exact .error trivial

theorem toBound_isPlain : FailsOnlyWith EvalFault.IsPlain (Walk.toBound v) := by
  unfold Walk.toBound
  split
  · exact .ok _
  · exact .error trivial

theorem chooseItem_isPlain (items : List Value) (choice : Choice) :
    FailsOnlyWith EvalFault.IsPlain (chooseItem items choice) := by
  cases choice with
  | index n => exact (position_isPlain n _).bind fun place => .ok _
  | key name => exact mismatch_isPlain _ _ _

theorem chooseFields_isPlain (fields : List (String × Value)) (choices : List Choice) :
    FailsOnlyWith EvalFault.IsPlain (chooseFields indexObjects fields choices) := by
  induction choices with
  | nil => exact .ok _
  | cons choice choices ih =>
    cases choice with
    | key name =>
      refine ih.bind fun found => ?_
      cases Fields.get? fields name <;> exact .ok _
    | index n =>
      rw [chooseFields]
      split
      · exact (position_isPlain n _).bind fun place => ih.bind fun found => .ok _
      · exact mismatch_isPlain _ _ _

theorem choose_isPlain (choices : List Choice) :
    FailsOnlyWith EvalFault.IsPlain (v.choose indexObjects choices) := by
  unfold choose
  split
  · exact .mapM (chooseItem_isPlain _) choices
  · refine (chooseFields_isPlain indexObjects _ choices).bind fun result => ?_
    obtain ⟨found, missing⟩ := result
    show FailsOnlyWith _ (if missing.isEmpty then _ else _)
    split
    · exact .ok _
    · exact .error trivial
  · exact mismatch_isPlain v _ _

/-! ## Operators -/

section Operands

variable (left right : Value)

theorem toNumeral_isPlain : FailsOnlyWith EvalFault.IsPlain v.toNumeral := by
  unfold toNumeral
  split
  · exact .ok _
  · exact .ok _
  · split
    · exact .ok _
    · exact .error trivial
  · exact .error trivial

theorem toInteger_isPlain : FailsOnlyWith EvalFault.IsPlain v.toInteger := by
  refine (toNumeral_isPlain v).bind fun n => ?_
  split
  · exact .ok _
  · exact .error trivial

theorem toChars_isPlain : FailsOnlyWith EvalFault.IsPlain v.toChars := by
  unfold toChars
  split
  · exact .ok _
  · exact .error trivial
  · exact .ok _

/-- Arithmetic fails with a plain fault whatever decimals it uses. -/
theorem Arithmetic.applyBy_isPlain (D : Number.DecimalPackage) (op : Arithmetic) (a b : Numeral) :
    FailsOnlyWith EvalFault.IsPlain (op.applyBy D a b) := by
  unfold applyBy
  split
  · exact .error trivial
  · split
    · split <;> exact .ok _
    · exact .ok _

theorem arithmetic_isPlain (op : Arithmetic) :
    FailsOnlyWith EvalFault.IsPlain (arithmetic op left right) :=
  (toNumeral_isPlain left).bind fun a => (toNumeral_isPlain right).bind fun b =>
    op.applyBy_isPlain Number.Decimal.package a b

theorem remainder_isPlain : FailsOnlyWith EvalFault.IsPlain (remainder left right) := by
  refine (toInteger_isPlain left).bind fun a => (toInteger_isPlain right).bind fun b => ?_
  split
  · exact .error trivial
  · split
    · exact .error trivial
    · exact .ok _

theorem compareBy_isPlain (accepts : Ordering → Bool) :
    FailsOnlyWith EvalFault.IsPlain (compareBy accepts left right) := by
  have horder : FailsOnlyWith EvalFault.IsPlain (order left right) := by
    unfold order
    split
    · exact .ok _
    · exact (toNumeral_isPlain left).bind fun a => (toNumeral_isPlain right).bind fun b => .ok _
  exact horder.bind fun result => .ok _

/-- Matching fails with a plain fault whatever is taken for a pattern. -/
theorem matchBy_isPlain (occurs? : List Char → List Char → Option Bool) :
    FailsOnlyWith EvalFault.IsPlain (matchBy occurs? left right) := by
  refine (toChars_isPlain left).bind fun text => (toChars_isPlain right).bind fun source => ?_
  split
  · exact .ok _
  · exact .error trivial

theorem plus_isPlain : FailsOnlyWith EvalFault.IsPlain (plus left right) := by
  unfold plus
  split
  · exact .ok _
  · exact arithmetic_isPlain _ _ _

/-- An operator that has two operands and always looks at both fails with plain faults only. -/
theorem applyOperator_isPlain {op : Operator} (hnot : op ≠ .not) (hand : op ≠ .and)
    (hor : op ≠ .or) : FailsOnlyWith EvalFault.IsPlain (applyOperator op left right) := by
  cases op with
  | eq | ne => exact .ok _
  | lt | le | gt | ge => exact compareBy_isPlain left right _
  | matchPattern => exact matchBy_isPlain left right Pattern.occurs?
  | add => exact plus_isPlain left right
  | sub | mul | div | pow => exact arithmetic_isPlain left right _
  | mod => exact remainder_isPlain left right
  | not => exact absurd rfl hnot
  | and => exact absurd rfl hand
  | or => exact absurd rfl hor

end Operands

end Value

/-! ## Walks -/

namespace Walk

/-- A walk whose filters fail with supported faults only. -/
def FiltersSupported (w : Walk) : Prop :=
  ∀ text items, FailsOnlyWith EvalFault.IsSupported (w.filter text items)

/-- An expression that nowhere fails because of an operator. -/
def Supports (w : Walk) (expr : Expr) : Prop :=
  ∀ v, FailsOnlyWith EvalFault.IsSupported (w.evaluate expr v)

variable {w : Walk} (v : Value)

theorem isSupported_inSlot {α : Type} (slot : Slot) {x : Except EvalFault α}
    (h : FailsOnlyWith EvalFault.IsSupported x) :
    FailsOnlyWith EvalFault.IsSupported (inSlot slot x) := by
  cases x with
  | ok a => exact .ok a
  | error fault => exact .error (h fault rfl)

theorem isSupported_bound (slot : Slot) (bound : Option Bound)
    (h : ∀ expr ∈ bound.bind Bound.expr?, w.Supports expr) :
    FailsOnlyWith EvalFault.IsSupported (w.bound slot v bound) := by
  match bound with
  | none => rw [Walk.bound]; exact .ok none
  | some (.literal n) => rw [Walk.bound]; exact .ok (some n)
  | some (.computed expr) =>
    rw [Walk.bound]
    refine (isSupported_inSlot slot (h expr rfl v)).bind fun result => ?_
    exact (isSupported_of_isPlain (Value.toBound_isPlain result)).bind fun n => .ok _

theorem isSupported_choices (members : List Member)
    (h : ∀ expr ∈ members.filterMap Member.expr?, w.Supports expr) :
    FailsOnlyWith EvalFault.IsSupported (w.choices v members) := by
  induction members with
  | nil => rw [choices]; exact .ok []
  | cons member members ih =>
    have hrest := ih fun expr hexpr =>
      h expr (((List.sublist_cons_self member members).filterMap Member.expr?).subset hexpr)
    cases member with
    | index n => rw [choices]; exact hrest.bind fun later => .ok _
    | key name => rw [choices]; exact hrest.bind fun later => .ok _
    | computed expr =>
      rw [choices]
      refine (isSupported_inSlot .unionMember (h expr List.mem_cons_self v)).bind fun result => ?_
      refine (isSupported_of_isPlain (Value.toChoice_isPlain result)).bind fun choice => ?_
      exact hrest.bind fun later => .ok _

theorem isSupported_find (hw : w.FiltersSupported) {s : Segment}
    (h : ∀ expr ∈ s.exprs, w.Supports expr) :
    FailsOnlyWith EvalFault.IsSupported (w.find v s) := by
  cases s with
  | root | current | descent => exact .ok _
  | wildcard => exact (isSupported_of_isPlain (v.members_isPlain _)).map _
  | key name => exact (isSupported_of_isPlain (v.field_isPlain name)).map _
  | index n => exact (isSupported_of_isPlain (v.element_isPlain _ n)).map _
  | length => exact (isSupported_of_isPlain v.measure_isPlain).map _
  | range start stop step =>
    have hbound (slot : Slot) (bound : Option Bound) (hbound : bound ∈ [start, stop, step]) :
        FailsOnlyWith EvalFault.IsSupported (w.bound slot v bound) :=
      isSupported_bound v slot bound fun expr hexpr =>
        h expr (List.mem_filterMap.2 ⟨bound, hbound, hexpr⟩)
    refine (isSupported_of_isPlain (v.sliceSize_isPlain _)).bind fun size => ?_
    refine (hbound .rangeStart start (by simp)).bind fun first => ?_
    refine (hbound .rangeStop stop (by simp)).bind fun last => ?_
    refine (hbound .rangeStep step (by simp)).bind fun stride => ?_
    refine (isSupported_of_isPlain (Value.positions_isPlain _ _ _ _)).bind fun positions => ?_
    cases v.select positions <;> exact .ok _
  | union members =>
    refine (isSupported_choices v members h).bind fun choices => ?_
    exact (isSupported_of_isPlain (v.choose_isPlain _ choices)).bind fun items => .ok _
  | filter text =>
    refine (isSupported_of_isPlain (v.members_isPlain _)).bind fun items => ?_
    exact (hw text items).bind fun kept => .ok _
  | script expr =>
    refine (h expr List.mem_cons_self v).bind fun result => ?_
    refine (isSupported_of_isPlain result.toChoice_isPlain).bind fun choice => ?_
    refine FailsOnlyWith.bind ?_ fun x => .ok _
    cases choice with
    | key name => exact isSupported_of_isPlain (v.field_isPlain name)
    | index n => exact isSupported_of_isPlain (v.element_isPlain _ n)

theorem isSupported_apply (hw : w.FiltersSupported) {path : List Segment}
    (h : ∀ s ∈ path, ∀ expr ∈ s.exprs, w.Supports expr) :
    FailsOnlyWith EvalFault.IsSupported (w.apply path v) := by
  induction path generalizing v with
  | nil => rw [apply]; exact .ok v
  | cons s rest ih =>
    have hrest := fun v => ih v fun s hs => h s (List.mem_cons_of_mem _ hs)
    rw [apply_cons]
    refine (isSupported_find v hw (h s List.mem_cons_self)).bind fun found => ?_
    cases found with
    | one x => exact hrest x
    | many items =>
      cases rest with
      | nil => exact .ok _
      | cons next rest =>
        rw [passOn]
        split
        · exact hrest _
        · exact .ok _

/-- A well-formed expression has no operator that cannot be applied. -/
theorem supports_of_passes (hw : w.FiltersSupported) {expr : Expr} (h : expr.Passes wellFormed) :
    w.Supports expr := by
  induction h with
  | literal => intro v; rw [evaluate]; exact .ok _
  | selector _ _ _ _ ih => intro v; rw [evaluate]; exact isSupported_apply v hw ih
  | @unary op operand hop _ ih =>
    intro v
    cases hop
    rw [evaluate]
    exact (ih v).bind fun result => .ok _
  | @binary op left right hop _ _ ihl ihr =>
    intro v
    rw [evaluate]
    refine (ihl v).bind fun first => ?_
    split
    · exact .ok _
    · split
      · exact .ok _
      · refine (ihr v).bind fun second => ?_
        split
        · exact .ok _
        · next hlogic =>
          rw [not_or] at hlogic
          exact isSupported_of_isPlain
            (Value.applyOperator_isPlain first second hop.1 hlogic.1 hlogic.2)

/-- A filter fails only if there is nothing in it. -/
theorem filtersSupported_start (settings : Settings) (root : Value) :
    (start settings root).FiltersSupported := by
  intro text items
  show FailsOnlyWith _ (keep settings root text items)
  rw [keep]
  split
  · exact .ok _
  · exact .error (by intro operator h; cases h)
  · exact .ok _

end Walk

/-- Whatever is built from a text is well-formed, nested queries included, and evaluating it never
fails because of an operator that cannot be applied, wherever and under whatever settings. -/
theorem Settings.passes_and_isSupported (settings : Settings) :
    (∀ text expr, Expr.ofText settings text = .ok (some expr) →
      expr.Passes wellFormed ∧ ∀ (evaluating : Settings) (root current : Value),
        FailsOnlyWith EvalFault.IsSupported (expr.evaluate evaluating root current)) ∧
    ∀ path query, Query.compile settings path = .ok query →
      (Query.Passes wellFormed query ∧ query.head? = some .root) ∧
      ∀ (evaluating : Settings) (root current : Value),
        FailsOnlyWith EvalFault.IsSupported ((Walk.start evaluating root).apply query current) := by
  refine ⟨fun text expr h => ?_, fun path query h => ?_⟩
  · have hexpr : expr.Passes wellFormed := Expr.passes_of_build h
    refine ⟨hexpr, fun evaluating root current => ?_⟩
    exact Walk.supports_of_passes (Walk.filtersSupported_start evaluating root) hexpr current
  · have hquery := Query.passes_of_compile h
    refine ⟨hquery, fun evaluating root current => ?_⟩
    have hfilters := Walk.filtersSupported_start evaluating root
    exact Walk.isSupported_apply current hfilters fun s hs expr hexpr =>
      Walk.supports_of_passes hfilters ((hquery.1.segments s hs).exprs expr hexpr)

/-- A division by zero in the end of a slice, built both as an expression and within a query. -/
theorem Settings.passes_and_isSupported_of_remainder :
    (Expr.ofText .standard "1 % 0" =
        .ok (some (.binary .mod (.literal (.integer 1)) (.literal (.integer 0)))) ∧
      Query.compile .standard "$[(1 % 0):]" = .ok [.root, .range (some (.computed
        (.binary .mod (.literal (.integer 1)) (.literal (.integer 0))))) none none]) ∧
    Expr.Passes wellFormed (.binary .mod (.literal (.integer 1)) (.literal (.integer 0))) ∧
    (Walk.start .standard .null).evaluate
      (.binary .mod (.literal (.integer 1)) (.literal (.integer 0))) .null =
        .error .divisionByZero ∧
    (Walk.start .standard (.array [])).apply [.root, .range (some (.computed
      (.binary .mod (.literal (.integer 1)) (.literal (.integer 0))))) none none] .null =
        .error (.within .rangeStart .divisionByZero) ∧
    EvalFault.IsSupported .divisionByZero ∧
    EvalFault.IsSupported (.within .rangeStart .divisionByZero) := by
  have htext : Expr.ofText .standard "1 % 0" =
      .ok (some (.binary .mod (.literal (.integer 1)) (.literal (.integer 0)))) := by
    with_unfolding_all rfl
  have hpath : Query.compile .standard "$[(1 % 0):]" = .ok [.root, .range (some (.computed
      (.binary .mod (.literal (.integer 1)) (.literal (.integer 0))))) none none] := by
    with_unfolding_all rfl
  obtain ⟨hexpr, hquery⟩ := Settings.standard.passes_and_isSupported
  obtain ⟨hpasses, hfails⟩ := hexpr _ _ htext
  refine ⟨⟨htext, hpath⟩, hpasses, rfl, rfl, hfails .standard .null .null _ rfl, ?_⟩
  exact (hquery _ _ hpath).2 .standard (.array []) .null _ rfl

end PathQuery
