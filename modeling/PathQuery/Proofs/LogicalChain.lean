import PathQuery.Walk.Evaluate

/-!
# Chains of logical operators

A chain of operands that are joined by `&&`, or by `||`, is looked at from the left until an operand
faults or settles the answer. How the operands are grouped is therefore of no consequence, be it for
the answer or for the fault, and a negation can be taken to the operands if the operator is turned
into the other one.
-/

namespace PathQuery

/-- The two operators that look at their right operand only if they have to. -/
inductive Connective where
  | and
  | or
deriving DecidableEq, Repr

namespace Connective

/-- How a connective is written. -/
def operator : Connective → Operator
  | .and => .and
  | .or => .or

/-- The truth of an operand behind which nothing is looked at any more. -/
def settling : Connective → Bool
  | .and => false
  | .or => true

/-- The other connective. -/
def dual : Connective → Connective
  | .and => .or
  | .or => .and

/-- The truth of a chain, given what comes of each of its operands. -/
def settle (c : Connective) : List (Except EvalFault Bool) → Except EvalFault Bool
  | [] => .ok (!c.settling)
  | outcome :: rest => do
    if (← outcome) = c.settling then return c.settling else c.settle rest

end Connective

/-- The operands of a chain, however they are grouped. -/
def Expr.operands (c : Connective) : Expr → List Expr
  | .binary op left right =>
    if op = c.operator then left.operands c ++ right.operands c else [.binary op left right]
  | e => [e]

/-- Whether an expression holds at a value, or the fault that it ends in. -/
def Walk.truth (w : Walk) (v : Value) (e : Expr) : Except EvalFault Bool := do
  return (← w.evaluate e v).isTruthy

namespace Connective

variable {c : Connective}

/-! ## Outcomes -/

theorem settle_settling (xs : List (Except EvalFault Bool)) :
    c.settle (.ok c.settling :: xs) = .ok c.settling :=
  if_pos rfl

theorem settle_of_ne {t : Bool} (ht : t ≠ c.settling) (xs : List (Except EvalFault Bool)) :
    c.settle (.ok t :: xs) = c.settle xs :=
  if_neg ht

theorem settling_dual (c : Connective) : c.dual.settling = !c.settling := by
  cases c <;> rfl

theorem settle_singleton (c : Connective) (outcome : Except EvalFault Bool) :
    c.settle [outcome] = outcome := by
  cases outcome with
  | error fault => rfl
  | ok t => cases c <;> cases t <;> rfl

/-- What stands behind a chain matters if the chain does not settle the answer. -/
theorem settle_append (c : Connective) (xs ys : List (Except EvalFault Bool)) :
    c.settle (xs ++ ys) =
      (do if (← c.settle xs) = c.settling then return c.settling else c.settle ys) := by
  induction xs with
  | nil => cases c <;> rfl
  | cons outcome xs ih =>
    cases outcome with
    | error fault => rfl
    | ok t =>
      by_cases ht : t = c.settling
      · rw [List.cons_append, ht, settle_settling, settle_settling]
        exact (if_pos rfl).symm
      · rw [List.cons_append, settle_of_ne ht, settle_of_ne ht, ih]

theorem settle_pair (c : Connective) (first second : Except EvalFault Bool) :
    c.settle [first, second] =
      (do if (← first) = c.settling then return c.settling else second) := by
  rw [← List.singleton_append, settle_append, settle_singleton, settle_singleton]

/-- With all outcomes turned round, the other connective settles on the opposite. -/
theorem settle_dual (c : Connective) (xs : List (Except EvalFault Bool)) :
    c.dual.settle (xs.map (Except.map not)) = (c.settle xs).map not := by
  induction xs with
  | nil => cases c <;> rfl
  | cons outcome xs ih =>
    cases outcome with
    | error fault => rfl
    | ok t =>
      show c.dual.settle (Except.ok (!t) :: xs.map (Except.map not)) = _
      by_cases ht : t = c.settling
      · rw [ht, settle_settling, ← settling_dual, settle_settling, settling_dual]
        rfl
      · have hdual : (!t) ≠ c.dual.settling := by
          simpa [settling_dual] using ht
        rw [settle_of_ne ht, settle_of_ne hdual, ih]

end Connective

namespace Walk

variable (w : Walk) (c : Connective) (v : Value)

/-! ## Chains -/

theorem evaluate_connective (left right : Expr) :
    w.evaluate (.binary c.operator left right) v =
      (c.settle [w.truth v left, w.truth v right]).map .bool := by
  have hevaluate : w.evaluate (.binary c.operator left right) v = (do
      let first ← w.evaluate left v
      if first.isTruthy = c.settling then return .bool c.settling
      else return .bool (← w.evaluate right v).isTruthy) := by
    cases c <;> simp [evaluate, Connective.operator, Connective.settling]
  rw [hevaluate, Connective.settle_pair, truth, truth]
  cases w.evaluate left v with
  | error fault => rfl
  | ok first =>
    show (if first.isTruthy = c.settling then .ok (.bool c.settling)
        else (do return .bool (← w.evaluate right v).isTruthy)) =
      Except.map Value.bool (if first.isTruthy = c.settling then .ok c.settling
        else (do return (← w.evaluate right v).isTruthy))
    split
    · rfl
    · cases w.evaluate right v <;> rfl

theorem evaluate_not (e : Expr) :
    w.evaluate (.unary .not e) v = ((w.truth v e).map not).map .bool := by
  rw [evaluate, truth]
  cases w.evaluate e v <;> rfl

theorem truth_of_evaluate {e : Expr} {outcome : Except EvalFault Bool}
    (h : w.evaluate e v = outcome.map .bool) : w.truth v e = outcome := by
  rw [truth, h]
  cases outcome <;> rfl

theorem truth_connective (left right : Expr) :
    w.truth v (.binary c.operator left right) = c.settle [w.truth v left, w.truth v right] :=
  w.truth_of_evaluate v (w.evaluate_connective c v left right)

theorem truth_not (e : Expr) : w.truth v (.unary .not e) = (w.truth v e).map not :=
  w.truth_of_evaluate v (w.evaluate_not v e)

/-- The truth of a chain is that of its operands. -/
theorem truth_eq_settle : ∀ e : Expr, w.truth v e = c.settle ((e.operands c).map (w.truth v))
  | .literal value => (c.settle_singleton _).symm
  | .selector anchor path => (c.settle_singleton _).symm
  | .unary op operand => (c.settle_singleton _).symm
  | .binary op left right => by
    by_cases hop : op = c.operator
    · subst hop
      have hleft := truth_eq_settle left
      have hright := truth_eq_settle right
      rw [truth_connective, Expr.operands, if_pos rfl, List.map_append, Connective.settle_append,
        ← hleft, ← hright, Connective.settle_pair]
    · rw [Expr.operands, if_neg hop]
      exact (c.settle_singleton _).symm

/-- A chain is looked at from the left until an operand faults or settles the answer. -/
theorem evaluate_chain (left right : Expr) : w.evaluate (.binary c.operator left right) v =
    (c.settle (((Expr.binary c.operator left right).operands c).map (w.truth v))).map .bool := by
  rw [← truth_eq_settle, truth_connective, evaluate_connective]

/-- Chains of the same operands have the same answer, or fault in the same way. -/
theorem evaluate_chain_congr {left right left' right' : Expr}
    (h : (Expr.binary c.operator left right).operands c =
      (Expr.binary c.operator left' right').operands c) :
    w.evaluate (.binary c.operator left right) v =
      w.evaluate (.binary c.operator left' right') v := by
  rw [evaluate_chain, evaluate_chain, h]

theorem evaluate_regrouped (a b e : Expr) :
    w.evaluate (.binary c.operator (.binary c.operator a b) e) v =
      w.evaluate (.binary c.operator a (.binary c.operator b e)) v := by
  apply evaluate_chain_congr
  simp only [Expr.operands, if_true, List.append_assoc]

/-- A negated pair is the pair of the negations under the other connective. -/
theorem evaluate_not_connective (left right : Expr) :
    w.evaluate (.unary .not (.binary c.operator left right)) v =
      w.evaluate (.binary c.dual.operator (.unary .not left) (.unary .not right)) v := by
  rw [evaluate_not, truth_connective, ← Connective.settle_dual, evaluate_connective, truth_not,
    truth_not]
  rfl

end Walk

/-- Of three operands it does not matter which two of them are grouped, and a negation can be taken
to the operands of either connective, whatever comes of the operands: the answer stays the same, and
so does the fault. -/
theorem Expr.evaluate_regrouped_and_negated (settings : Settings) (a b c : Expr)
    (root current : Value) :
    (Expr.binary .and (.binary .and a b) c).evaluate settings root current =
      (Expr.binary .and a (.binary .and b c)).evaluate settings root current ∧
    (Expr.binary .or (.binary .or a b) c).evaluate settings root current =
      (Expr.binary .or a (.binary .or b c)).evaluate settings root current ∧
    (Expr.unary .not (.binary .and a b)).evaluate settings root current =
      (Expr.binary .or (.unary .not a) (.unary .not b)).evaluate settings root current ∧
    (Expr.unary .not (.binary .or a b)).evaluate settings root current =
      (Expr.binary .and (.unary .not a) (.unary .not b)).evaluate settings root current := by
  refine ⟨?_, ?_, ?_, ?_⟩
  · exact Walk.evaluate_regrouped _ .and current a b c
  · exact Walk.evaluate_regrouped _ .or current a b c
  · exact Walk.evaluate_not_connective _ .and current a b
  · exact Walk.evaluate_not_connective _ .or current a b

end PathQuery
