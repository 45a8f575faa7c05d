import PathQuery.Proofs.CanonicalText
import PathQuery.Proofs.FilterNesting

/-!
# What a filter gives

The text of a filter is built when a walk reaches it. If that fails, the filter keeps nothing, and
otherwise it keeps the members for which the expression holds; a member for which it fails is
dropped. There is a third outcome: a text may be built into no expression at all, and the filter then
fails. A blank text is refused when the path is compiled, but parentheses around one are not, and
these are the only texts on which a filter fails.
-/

namespace PathQuery

open Unicode Text Outcome

/-- A text with nothing in it but parentheses nested around white space. -/
inductive Hollow : List Char → Prop
  | blank {cs : List Char} : isBlank cs = true → Hollow cs
  | wrapped {front cs back : List Char} : isBlank front = true → isBlank back = true →
      Hollow cs → Hollow (front ++ parenthesised cs ++ back)

theorem Hollow.balanced {cs : List Char} (h : Hollow cs) : Balanced cs := by
  induction h with
  | blank hblank => exact balanced_of_isBlank hblank
  | wrapped hfront hback _ ih =>
    exact ((balanced_of_isBlank hfront).append ih.parenthesised).append (balanced_of_isBlank hback)

theorem trim_wrapped {front cs back : List Char} (hfront : isBlank front = true)
    (hback : isBlank back = true) : trim (front ++ parenthesised cs ++ back) = parenthesised cs := by
  rw [trim_append_right hback, trim_append_left hfront]
  exact trim_eq_self rfl (by decide) (List.getLast?_concat (l := '(' :: cs)) (by decide)

namespace Expr

variable {settings : Settings} {cs : List Char}

/-- What has neither parentheses around it nor an operator in it is a constant, if it is anything. -/
theorem ofParts_ne_none {build : ExprBuilder} : ofParts settings build cs ≠ .ok none := by
  intro h
  obtain ⟨result, -, h⟩ := bind_eq_ok.1 h
  cases result with
  | some expr => cases h
  | none =>
    obtain ⟨value, -, he⟩ := bind_eq_ok.1 h
    cases he

theorem build_eq_none_of_hollow (h : Hollow cs) : build settings cs = .ok none := by
  induction h with
  | blank hblank => rw [build_eq, step, trim_eq_nil_iff.2 hblank]
  | @wrapped front cs back hfront hback hcs ih =>
    have hunwrap : unwrap ('(' :: (cs ++ [')'])) = some cs :=
      unwrap_parenthesised hcs.balanced.parentheses
    rw [build_eq, step, trim_wrapped hfront hback, parenthesised]
    simp only [hunwrap, ih]

theorem hollow_of_build_eq_none (h : build settings cs = .ok none) : Hollow cs := by
  induction hn : cs.length using Nat.strong_induction_on generalizing cs with
  | _ n ih =>
    have htrim := length_trim_le cs
    rw [build_eq, step] at h
    split at h
    · next hnil => exact .blank (trim_eq_nil_iff.1 hnil)
    · next c rest hcs =>
      rw [hcs] at htrim
      split at h
      · next inner hinner =>
        have hlt := Nat.lt_of_lt_of_le (isPart_of_unwrap hinner).length_lt htrim
        obtain ⟨front, back, hfront, hback, he⟩ := exists_eq_append_trim cs
        rw [he, hcs, (unwrap_eq_some hinner).1]
        exact .wrapped hfront hback (ih _ (hn ▸ hlt) h rfl)
      · exact absurd h ofParts_ne_none

/-- The texts that give no expression, whatever the priorities are. -/
theorem build_eq_none_iff : build settings cs = .ok none ↔ Hollow cs :=
  ⟨hollow_of_build_eq_none, build_eq_none_of_hollow⟩

end Expr

theorem Walk.holding_eq_filter (settings : Settings) (root : Value) (expr : Expr) (items : List Value) :
    (start settings root).holding expr items =
      items.filter fun item => (expr.evaluate settings root item).toOption.any Value.isTruthy := by
  refine List.filter_congr fun item _ => ?_
  rw [Expr.evaluate]
  cases (start settings root).evaluate expr item <;> rfl

/-- The filter at the end of a compiled path gives some of the members of an array or an object, in
their order: none if its text cannot be built, and otherwise those for which the expression gives a
true value. It fails only on a text of parentheses around nothing. -/
theorem Query.apply_filter_of_compile {compiling : Settings} {path : String} {front : Query}
    {text : String} (h : compile compiling path = .ok (front ++ [.filter text]))
    (settings : Settings) (root : Value) {v : Value} {items : List Value}
    (hv : v = .array items ∨ ∃ fields, v = .object fields ∧ items = Fields.values fields) :
    isBlank text.toList = false ∧
    (Hollow text.toList → (Walk.start settings root).apply [.filter text] v =
      .error (.query (.badExpression text .emptyFilter))) ∧
    (¬Hollow text.toList → ∃ kept, kept.Sublist items ∧
      (Walk.start settings root).apply [.filter text] v = .ok (.array kept) ∧
      ((∃ fault, Expr.ofText settings text = .error fault) ∧ kept = [] ∨
        ∃ expr, Expr.ofText settings text = .ok (some expr) ∧
          kept = items.filter fun item =>
            (expr.evaluate settings root item).toOption.any Value.isTruthy)) := by
  have hitems : v.members .filter = .ok items := by
    rcases hv with rfl | ⟨fields, rfl, rfl⟩ <;> rfl
  have hfilter : IsFilterText text.toList :=
    ((passes_of_compile h).1.segments (.filter text) (by simp)).own
  have happly : (Walk.start settings root).apply [.filter text] v =
      (Walk.keep settings root text items).map .array :=
    (Walk.start settings root).apply_filter hitems text
  rw [happly, Walk.keep_eq]
  refine ⟨hfilter.isBlank_eq, fun hhollow => ?_, fun hhollow => ?_⟩
  · have hbuild : Expr.ofText settings text = .ok none := Expr.build_eq_none_iff.2 hhollow
    rw [hbuild]
    rfl
  · cases hbuild : Expr.ofText settings text with
    | error fault => exact ⟨[], List.nil_sublist items, rfl, .inl ⟨⟨fault, rfl⟩, rfl⟩⟩
    | ok result =>
      cases result with
      | none => exact absurd (Expr.build_eq_none_iff.1 hbuild) hhollow
      | some expr =>
        refine ⟨_, List.filter_sublist, ?_, .inr ⟨expr, rfl, rfl⟩⟩
        rw [← Walk.holding_eq_filter]
        rfl

/-- A filter keeps one member; one that lacks the field and one that is no object are dropped. -/
theorem Query.apply_filter_of_compile_field :
    compile .standard "$[?(@.a)]" = .ok ([.root] ++ [.filter "@.a"]) ∧
    ¬Hollow "@.a".toList ∧
    (Walk.start .standard .null).apply [.filter "@.a"]
      (.object [("x", .object []), ("y", .object [("a", .bool true)]), ("z", .null)]) =
        .ok (.array [.object [("a", .bool true)]]) := by
  have hcompile : compile .standard "$[?(@.a)]" = .ok ([.root] ++ [.filter "@.a"]) := by
    with_unfolding_all rfl
  have hbuild : Expr.ofText .standard "@.a" =
      .ok (some (.selector .current [.current, .key "a"])) := by
    with_unfolding_all rfl
  have hhollow : ¬Hollow "@.a".toList := fun h => by
    cases hbuild.symm.trans (Expr.build_eq_none_of_hollow h)
  refine ⟨hcompile, hhollow, ?_⟩
  obtain ⟨kept, -, hkept, hresult⟩ := (apply_filter_of_compile hcompile .standard .null
    (v := .object [("x", .object []), ("y", .object [("a", .bool true)]), ("z", .null)])
    (.inr ⟨_, rfl, rfl⟩)).2.2 hhollow
  rw [hkept]
  rcases hresult with ⟨⟨fault, hfault⟩, -⟩ | ⟨expr, hexpr, rfl⟩
  · cases hbuild.symm.trans hfault
  · cases hbuild.symm.trans hexpr
    rfl

/-- Parentheses around nothing compile as a filter, which then fails on an array. -/
theorem Query.apply_filter_eq_error_of_parentheses :
    compile .standard "$[?(())]" = .ok ([.root] ++ [.filter "()"]) ∧
    (Walk.start .standard (.array [.integer 1])).apply [.filter "()"] (.array [.integer 1]) =
      .error (.query (.badExpression "()" .emptyFilter)) := by
  refine ⟨by with_unfolding_all rfl, ?_⟩
  have hbuild : Expr.ofText .standard "()" = .ok none :=
    Expr.build_eq_none_of_hollow (@Hollow.wrapped [] [] [] rfl rfl (.blank rfl))
  rw [Walk.apply_filter _ rfl]
  show (Walk.keep .standard _ "()" _).map _ = _
  rw [Walk.keep_eq, hbuild]
  rfl

end PathQuery
