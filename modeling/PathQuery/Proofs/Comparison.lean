import PathQuery.Proofs.IntegerArithmetic
import PathQuery.Proofs.LooseEquality

/-!
# Comparisons

Equality takes two values as they are. The order takes two strings as strings and everything else as
doubles, and faults where an operand is no number. On two strings, and on two numbers that are not
NaN, both go by one order.
-/

namespace PathQuery

open Number

namespace Number

theorem compare_toModel (x y : Float) :
    x.toModel.compare y.toModel = (do return (← place? x).order (← place? y)) :=
  compare_eq_order x.toModel.unpack y.toModel.unpack

theorem compare_toModel_swap (x y : Float) :
    y.toModel.compare x.toModel = (x.toModel.compare y.toModel).map Ordering.swap := by
  rw [compare_toModel, compare_toModel]
  cases place? x with
  | none => cases place? y <;> rfl
  | some p =>
    cases place? y with
    | none => rfl
    | some q => exact congrArg some (Place.order_swap p q)

end Number

namespace Value

/-- Two strings, or two numbers neither of which is NaN. -/
inductive Comparable : Value → Value → Prop
  | strings (s t : String) : Comparable (.string s) (.string t)
  | numbers {a b : Value} {x y : Float} : a.asFloat? = some x → b.asFloat? = some y →
      x.isNaN = false → y.isNaN = false → Comparable a b

/-- Two faults, whichever they are, or the same truth value. -/
inductive SameAnswer : Except EvalFault Value → Except EvalFault Value → Prop
  | fault (e f : EvalFault) : SameAnswer (.error e) (.error f)
  | truth (t : Bool) : SameAnswer (.ok (.bool t)) (.ok (.bool t))

variable {a b : Value}

/-! ## Order and equality -/

theorem order_numbers {x y : Float} (ha : a.asFloat? = some x) (hb : b.asFloat? = some y) :
    order a b = .ok (x.toModel.compare y.toModel) := by
  cases a <;> cases ha <;> cases b <;> cases hb <;> rfl

/-- Values that can be compared have an order, in which they are equal just when they are loosely
equal. -/
theorem Comparable.exists_order (h : a.Comparable b) :
    ∃ o, order a b = .ok (some o) ∧ a.looseEq b = (o == .eq) := by
  cases h with
  | strings s t =>
    refine ⟨compare s t, rfl, (looseEq.eq_def ..).trans ?_⟩
    rw [Bool.eq_iff_iff, beq_iff_eq, beq_iff_eq, Std.LawfulEqCmp.compare_eq_iff_eq]
  | @numbers _ _ x y ha hb hx hy =>
    obtain ⟨p, hp⟩ := exists_place? hx
    obtain ⟨q, hq⟩ := exists_place? hy
    refine ⟨p.order q, ?_, ?_⟩
    · rw [order_numbers ha hb, compare_toModel, hp, hq]
      rfl
    · rw [looseEq_number ha hb]
      show (x.toModel.compare y.toModel == some .eq) = _
      rw [compare_toModel, hp, hq]
      rfl

/-- Values that can be compared are in just one of three relations, two of which are negated by the
two weak comparisons. -/
theorem Comparable.trichotomy (h : a.Comparable b) :
    ∃ lt eq gt : Bool,
      a.applyOperator .lt b = .ok (.bool lt) ∧ a.applyOperator .eq b = .ok (.bool eq) ∧
      a.applyOperator .gt b = .ok (.bool gt) ∧ [lt, eq, gt].count true = 1 ∧
      a.applyOperator .le b = .ok (.bool !gt) ∧ a.applyOperator .ge b = .ok (.bool !lt) := by
  obtain ⟨o, horder, heq⟩ := h.exists_order
  have hcompare (accepts : Ordering → Bool) : compareBy accepts a b = .ok (.bool (accepts o)) := by
    rw [compareBy, horder]
    rfl
  refine ⟨o == .lt, o == .eq, o == .gt, hcompare _, ?_, hcompare _, ?_, hcompare _, hcompare _⟩
  · rw [applyOperator, heq]
  · cases o <;> rfl

/-! ## Operands the other way round -/

theorem order_eq_of_not_strings (h : ¬∃ s t, a = .string s ∧ b = .string t) :
    order a b = (do
      let x ← toNumeral a
      let y ← toNumeral b
      return x.toFloat.toModel.compare y.toFloat.toModel) := by
  unfold order
  split
  · exact absurd ⟨_, _, rfl, rfl⟩ h
  · rfl

/-- The order of two values can be read from either side: there are faults on both sides, or one
side is the reverse of the other. -/
theorem order_swap (a b : Value) :
    (∃ e f, order a b = .error e ∧ order b a = .error f) ∨
      ∃ o, order a b = .ok o ∧ order b a = .ok (o.map Ordering.swap) := by
  by_cases h : ∃ s t, a = .string s ∧ b = .string t
  · obtain ⟨s, t, rfl, rfl⟩ := h
    have hst : compare t s = (compare s t).swap := Std.OrientedCmp.eq_swap
    exact .inr ⟨some (compare s t), rfl, congrArg (fun o => Except.ok (some o)) hst⟩
  · have hswap : ¬∃ s t, b = .string s ∧ a = .string t := fun ⟨s, t, hb, ha⟩ => h ⟨t, s, ha, hb⟩
    rw [order_eq_of_not_strings h, order_eq_of_not_strings hswap]
    cases toNumeral a with
    | error e =>
      cases toNumeral b with
      | error f => exact .inl ⟨e, f, rfl, rfl⟩
      | ok y => exact .inl ⟨e, e, rfl, rfl⟩
    | ok x =>
      cases toNumeral b with
      | error f => exact .inl ⟨f, f, rfl, rfl⟩
      | ok y => exact .inr ⟨_, rfl, congrArg Except.ok (compare_toModel_swap x.toFloat y.toFloat)⟩

theorem sameAnswer_compareBy {accepts accepts' : Ordering → Bool}
    (h : ∀ o, accepts' o.swap = accepts o) (a b : Value) :
    SameAnswer (compareBy accepts a b) (compareBy accepts' b a) := by
  rw [compareBy, compareBy]
  obtain ⟨e, f, he, hf⟩ | ⟨o, ho, hswap⟩ := order_swap a b
  · rw [he, hf]
    exact .fault e f
  · rw [ho, hswap]
    have hany : (o.map Ordering.swap).any accepts' = o.any accepts := by
      cases o with
      | none => rfl
      | some o => exact h o
    show SameAnswer (.ok (.bool _)) (.ok (.bool _))
    rw [hany]
    exact .truth _

end Value

namespace Walk

open Value

theorem sameAnswer_evaluate (w : Walk) {op op' : Operator} (hop : op ≠ .and ∧ op ≠ .or)
    (hop' : op' ≠ .and ∧ op' ≠ .or)
    (h : ∀ a b : Value, SameAnswer (a.applyOperator op b) (b.applyOperator op' a))
    (left right : Expr) (v : Value) :
    SameAnswer (w.evaluate (.binary op left right) v) (w.evaluate (.binary op' right left) v) := by
  rw [w.evaluate_binary_eq hop.1 hop.2, w.evaluate_binary_eq hop'.1 hop'.2]
  cases w.evaluate left v with
  | error e =>
    cases w.evaluate right v with
    | error f => exact .fault e f
    | ok b => exact .fault e e
  | ok a =>
    cases w.evaluate right v with
    | error f => exact .fault f f
    | ok b => exact h a b

/-- Of two strings, or of two numbers that are not NaN, just one is true of being smaller, equal and
greater, and the two weak comparisons are the negations of the strict ones. Whatever the operands
are, a comparison and the one that is its mirror image give the same answer for the operands the
other way round, or both fault. -/
theorem evaluate_comparisons (w : Walk) (left right : Expr) (v : Value) :
    (∀ a b, w.evaluate left v = .ok a → w.evaluate right v = .ok b → a.Comparable b →
      ∃ lt eq gt : Bool,
        w.evaluate (.binary .lt left right) v = .ok (.bool lt) ∧
        w.evaluate (.binary .eq left right) v = .ok (.bool eq) ∧
        w.evaluate (.binary .gt left right) v = .ok (.bool gt) ∧
        [lt, eq, gt].count true = 1 ∧
        w.evaluate (.binary .le left right) v = .ok (.bool !gt) ∧
        w.evaluate (.binary .ge left right) v = .ok (.bool !lt)) ∧
    SameAnswer (w.evaluate (.binary .lt left right) v) (w.evaluate (.binary .gt right left) v) ∧
    SameAnswer (w.evaluate (.binary .le left right) v) (w.evaluate (.binary .ge right left) v) := by
  refine ⟨?_, ?_, ?_⟩
  · intro a b hleft hright hcomparable
    have happly (op : Operator) (hop : op ≠ .and ∧ op ≠ .or) :
        w.evaluate (.binary op left right) v = a.applyOperator op b :=
      w.evaluate_binary_of_ne hop.1 hop.2 hleft hright
    rw [happly .lt (by decide), happly .eq (by decide), happly .gt (by decide),
      happly .le (by decide), happly .ge (by decide)]
    exact hcomparable.trichotomy
  · refine w.sameAnswer_evaluate (by decide) (by decide) ?_ left right v
    exact sameAnswer_compareBy fun o => by cases o <;> rfl
  · refine w.sameAnswer_evaluate (by decide) (by decide) ?_ left right v
    exact sameAnswer_compareBy fun o => by cases o <;> rfl

/-- `2 ^ 53 + 1` is `2 ^ 53` as a double, so that the two are equal and none is greater. -/
theorem evaluate_comparisons_of_rounded :
    (Value.integer 9007199254740993).Comparable (.float 9007199254740992.0) ∧
    (start .standard .null).evaluate (.binary .eq (.literal (.integer 9007199254740993))
      (.literal (.float 9007199254740992.0))) .null = .ok (.bool true) ∧
    (start .standard .null).evaluate (.binary .lt (.literal (.integer 9007199254740993))
      (.literal (.float 9007199254740992.0))) .null = .ok (.bool false) ∧
    (start .standard .null).evaluate (.binary .le (.literal (.integer 9007199254740993))
      (.literal (.float 9007199254740992.0))) .null = .ok (.bool true) := by
  have hcomparable : (Value.integer 9007199254740993).Comparable (.float 9007199254740992.0) :=
    .numbers rfl rfl (by decide +kernel) (by decide +kernel)
  have hloose : (Value.integer 9007199254740993).looseEq (.float 9007199254740992.0) = true := by
    decide +kernel
  have hequal : (start .standard .null).evaluate (.binary .eq
      (.literal (.integer 9007199254740993)) (.literal (.float 9007199254740992.0))) .null =
        .ok (.bool true) := by
    rw [evaluate_binary_of_ne _ (by decide) (by decide) rfl rfl]
    exact congrArg (fun t => Except.ok (Value.bool t)) hloose
  obtain ⟨h, -, -⟩ := evaluate_comparisons (start .standard .null)
    (.literal (.integer 9007199254740993)) (.literal (.float 9007199254740992.0)) .null
  obtain ⟨lt, eq, gt, hlt, heq, -, hcount, hle, -⟩ := h _ _ rfl rfl hcomparable
  obtain rfl : eq = true := by simpa using heq.symm.trans hequal
  obtain ⟨rfl, rfl⟩ : lt = false ∧ gt = false := by
    cases lt <;> cases gt <;> simp at hcount ⊢
  exact ⟨hcomparable, hequal, hlt, hle⟩

end Walk

end PathQuery
