import PathQuery.Proofs.FilterOutcome

/-!
# Expressions about the document

An expression whose selectors all start at the document does not look at the value that it is
evaluated at. This holds whatever its paths go through: an `@` in a filter, a script, a slice or a
union of such a path stands for a value that the path has reached. A filter with such an expression
decides once for all members.
-/

namespace PathQuery

/-- Whether every selector of an expression starts at the document. Selectors that stand inside a
path do not count. -/
def Expr.isRootAnchored : Expr → Bool
  | .literal _ => true
  | .selector anchor _ => anchor = .root
  | .unary _ operand => operand.isRootAnchored
  | .binary _ left right => left.isRootAnchored && right.isRootAnchored

/-- A path that starts at the document leaves the value at hand behind. -/
theorem Walk.apply_eq_of_head?_root (w : Walk) {path : List Segment}
    (hpath : path.head? = some .root) (v v' : Value) : w.apply path v = w.apply path v' := by
  obtain ⟨rest, rfl⟩ := List.head?_eq_some_iff.1 hpath
  rw [apply, apply]

theorem Walk.evaluate_congr_of_isRootAnchored (w : Walk) {expr : Expr}
    (h : expr.Passes wellFormed) (hroot : expr.isRootAnchored = true) (v v' : Value) :
    w.evaluate expr v = w.evaluate expr v' := by
  induction h with
  | literal => rw [evaluate, evaluate]
  | @selector anchor path hown =>
    -- evaluation goes by the path alone, which a builder starts with the anchor
    have hanchor : anchor = .root := of_decide_eq_true hroot
    have hpath : path.head? = some .root := by rw [hown.1, hanchor]; rfl
    rw [evaluate, evaluate]
    exact w.apply_eq_of_head?_root hpath v v'
  | unary _ _ ih => rw [evaluate, evaluate, ih hroot]
  | binary _ _ _ ihl ihr =>
    obtain ⟨hl, hr⟩ := Bool.and_eq_true_iff.1 hroot
    rw [evaluate, evaluate, ihl hl, ihr hr]

/-- Such an expression holds for every member or for none, as it does at the document. -/
theorem Walk.holding_of_isRootAnchored (settings : Settings) (root : Value) {expr : Expr}
    (h : expr.Passes wellFormed) (hroot : expr.isRootAnchored = true) (items : List Value) :
    (start settings root).holding expr items =
      if (expr.evaluate settings root root).toOption.any Value.isTruthy then items else [] := by
  have hitem (item : Value) :
      expr.evaluate settings root item = expr.evaluate settings root root :=
    evaluate_congr_of_isRootAnchored _ h hroot item root
  rw [holding_eq_filter]
  simp only [hitem]
  cases (expr.evaluate settings root root).toOption.any Value.isTruthy with
  | true => exact List.filter_eq_self.2 fun _ _ => rfl
  | false => exact List.filter_eq_nil_iff.2 fun _ _ => Bool.false_ne_true

/-- An expression that was built from a text and whose selectors start at the document gives the
same value or the same fault wherever it is evaluated. A filter with such an expression keeps every
member of an array or an object, or none. -/
theorem Expr.evaluate_eq_of_isRootAnchored {building : Settings} {text : String} {expr : Expr}
    (hbuild : ofText building text = .ok (some expr)) (hroot : expr.isRootAnchored = true)
    (root : Value) :
    (∀ settings c c', expr.evaluate settings root c = expr.evaluate settings root c') ∧
    ∀ v items, v.members .filter = .ok items →
      (Walk.start building root).apply [.filter text] v = .ok (.array
        (if (expr.evaluate building root root).toOption.any Value.isTruthy then items else [])) := by
  have hpasses : expr.Passes wellFormed := passes_of_build hbuild
  refine ⟨?_, ?_⟩
  · intro settings c c'
    exact Walk.evaluate_congr_of_isRootAnchored _ hpasses hroot c c'
  · intro v items hitems
    have hkeep : (Walk.start building root).filter text items =
        .ok ((Walk.start building root).holding expr items) := by
      show Walk.keep building root text items = _
      rw [Walk.keep_eq, hbuild]
    rw [Walk.apply_filter _ hitems, hkeep, Walk.holding_of_isRootAnchored building root hpasses hroot]
    rfl

/-- The path goes through a script about `@`, which is the object found under `a`. -/
theorem Expr.evaluate_eq_of_isRootAnchored_script :
    ofText .standard "$.a[(@.n)]" = .ok (some (.selector .root
      [.root, .key "a", .script (.selector .current [.current, .key "n"])])) ∧
    ∀ items, (Walk.start .standard
      (.object [("a", .object [("n", .string "x"), ("x", .bool true)])])).apply
        [.filter "$.a[(@.n)]"] (.array items) = .ok (.array items) := by
  have hbuild : ofText .standard "$.a[(@.n)]" = .ok (some (.selector .root
      [.root, .key "a", .script (.selector .current [.current, .key "n"])])) := by
    with_unfolding_all rfl
  refine ⟨hbuild, fun items => ?_⟩
  exact (evaluate_eq_of_isRootAnchored hbuild rfl _).2 (.array items) items rfl

end PathQuery
