import PathQuery.Proofs.FilterNesting

/-!
# How deep filters nest

A walk builds the text of a filter each time it reaches the filter, and walks what it has built from
there, or from the document again. Nothing in the document ends this. What ends it is that the text
of a filter within a filter is a part of the text around it: a filter that is reached through others
loses a character for each of them. `keepWithin` applies filters without a look at their texts and
only counts how deep they stand, and as many levels as a path has characters are enough for its query.
-/

namespace PathQuery

open Text

/-! ## Texts -/

/-- A filter that stands somewhere in an expression. -/
inductive Expr.HasFilter (text : String) : Expr → Prop
  | segment {anchor : Anchor} {path : Query} : Segment.filter text ∈ path →
      HasFilter text (.selector anchor path)
  | nested {anchor : Anchor} {path : Query} {s : Segment} {expr : Expr} : s ∈ path →
      expr ∈ s.exprs → HasFilter text expr → HasFilter text (.selector anchor path)
  | operand {op : Operator} {expr : Expr} : HasFilter text expr → HasFilter text (.unary op expr)
  | left {op : Operator} {first second : Expr} : HasFilter text first →
      HasFilter text (.binary op first second)
  | right {op : Operator} {first second : Expr} : HasFilter text second →
      HasFilter text (.binary op first second)

/-- A filter that a walk over a query may come to, and the number of filters in whose expressions it
is then: those of the query are in none, and a filter is in one more than the filter from whose text
its expression was built. -/
inductive Query.HasFilterWithin (settings : Settings) (query : Query) : Nat → String → Prop
  | segment {text : String} : Segment.filter text ∈ query → HasFilterWithin settings query 0 text
  | nested {s : Segment} {expr : Expr} {text : String} : s ∈ query → expr ∈ s.exprs →
      expr.HasFilter text → HasFilterWithin settings query 0 text
  | built {depth : Nat} {text inner : String} {expr : Expr} :
      HasFilterWithin settings query depth text → Expr.ofText settings text = .ok (some expr) →
      expr.HasFilter inner → HasFilterWithin settings query (depth + 1) inner

theorem Expr.HasFilter.isPart {text : String} {whole : List Char} {expr : Expr}
    (h : expr.HasFilter text) (hparts : expr.Passes (filtersIn whole)) :
    IsPart text.toList whole := by
  induction h with
  | segment hmem =>
    cases hparts with
    | selector _ _ hsegments _ => exact hsegments _ hmem text rfl
  | nested hs hexpr _ ih =>
    cases hparts with
    | selector _ _ _ hexprs => exact ih (hexprs _ hs _ hexpr)
  | operand _ ih =>
    cases hparts with
    | unary _ hoperand => exact ih hoperand
  | left _ ih =>
    cases hparts with
    | binary _ hleft _ => exact ih hleft
  | right _ ih =>
    cases hparts with
    | binary _ _ hright => exact ih hright

/-- A filter in an expression has a text that is part of what the expression was built from. -/
theorem Expr.HasFilter.isPart_of_build {settings : Settings} {cs : List Char} {expr : Expr}
    {text : String} (h : expr.HasFilter text) (hbuild : build settings cs = .ok (some expr)) :
    IsPart text.toList cs :=
  h.isPart (passes_filtersIn_of_build hbuild)

/-- The filters in a compiled query are parts of its path. -/
theorem Query.passes_filtersIn_of_compile {settings : Settings} {path : String} {query : Query}
    (h : compile settings path = .ok query) : Query.Passes (filtersIn path.toList) query := by
  obtain ⟨rest, rfl, hwords⟩ := exists_word_of_compile h
  refine ⟨trivial, fun s hs => ?_⟩
  rcases List.mem_cons.1 hs with rfl | hs
  · exact Anchor.root.filtersIn_segment _
  · obtain ⟨word, -, hpart, hs⟩ := hwords s hs
    exact Segment.passes_filtersIn_of_ofWord hs hpart fun _ => Expr.passes_filtersIn_of_build

/-- A filter is shorter than the path by one character at least for each filter that it is in. -/
theorem Query.HasFilterWithin.isPart {settings : Settings} {query : Query} {whole : List Char}
    (hparts : Query.Passes (filtersIn whole) query) {depth : Nat} {text : String}
    (h : query.HasFilterWithin settings depth text) :
    IsPart text.toList whole ∧ text.length + depth < whole.length := by
  induction h with
  | segment hmem =>
    have hpart := (hparts.segments _ hmem).own _ rfl
    exact ⟨hpart, hpart.length_lt⟩
  | nested hs hexpr hfilter =>
    have hpart := hfilter.isPart ((hparts.segments _ hs).exprs _ hexpr)
    exact ⟨hpart, hpart.length_lt⟩
  | @built depth text inner expr _ hbuild hfilter ih =>
    obtain ⟨htext, hlength⟩ := ih
    have hinner : IsPart inner.toList text.toList := hfilter.isPart_of_build hbuild
    have hlt : inner.length < text.length := hinner.length_lt
    exact ⟨hinner.trans htext, by omega⟩

/-! ## Walks -/

namespace Walk

section Levels

variable (settings : Settings) (root : Value)
  (beyond : String → List Value → Except EvalFault (List Value))

/-- The values that a filter keeps if filters are applied so many levels deep. What is done with a
filter that stands deeper is left open. -/
def keepWithin : Nat → String → List Value → Except EvalFault (List Value)
  | 0, text, items => beyond text items
  | levels + 1, text, items =>
    match Expr.ofText settings text with
    | .error _ => .ok []
    | .ok none => .error (.query (.badExpression text .emptyFilter))
    | .ok (some expr) =>
      .ok (((start settings root).withFilter (keepWithin levels)).holding expr items)

/-- The walk over a document that applies filters so many levels deep. -/
def startWithin (levels : Nat) : Walk :=
  (start settings root).withFilter (keepWithin settings root beyond levels)

/-- A filter with a text of fewer characters than there are levels is applied to the end. -/
theorem keepWithin_eq_keep {levels : Nat} {text : String} (h : text.length < levels)
    (items : List Value) :
    keepWithin settings root beyond levels text items = keep settings root text items := by
  induction levels generalizing text items with
  | zero => exact absurd h (Nat.not_lt_zero _)
  | succ levels ih =>
    rw [keepWithin, keep_eq]
    cases hbuild : Expr.ofText settings text with
    | error fault => rfl
    | ok result =>
      cases result with
      | none => rfl
      | some expr =>
        have hparts : expr.Passes (filtersIn text.toList) := Expr.passes_filtersIn_of_build hbuild
        have hfilter (inner : String) (hinner : IsPart inner.toList text.toList) :
            keepWithin settings root beyond levels inner = (start settings root).filter inner := by
          have hlt : inner.length < text.length := hinner.length_lt
          exact funext fun items => ih (by omega) items
        exact congrArg Except.ok (holding_withFilter hfilter hparts items)

end Levels

end Walk

/-- The text of a filter is a part of the text from which the expression around it was built, wherever
in it the filter stands. Filters are therefore nested less deep than the path of a query has
characters, under any settings and over any document: a walk that applies them only so many levels
deep gives the same, whatever it does with those beyond. -/
theorem Query.evaluate_eq_startWithin :
    (∀ (settings : Settings) (text inner : String) (expr : Expr),
      Expr.ofText settings text = .ok (some expr) → expr.HasFilter inner →
      IsPart inner.toList text.toList) ∧
    ∀ (compiling : Settings) (path : String) (query : Query),
      compile compiling path = .ok query → ∀ settings : Settings,
      (∀ (depth : Nat) (text : String), query.HasFilterWithin settings depth text →
        IsPart text.toList path.toList ∧ text.length + depth < path.length) ∧
      ∀ (document : Value) (beyond : String → List Value → Except EvalFault (List Value))
        (levels : Nat), path.length ≤ levels →
        (Walk.startWithin settings document beyond levels).apply query document =
          query.evaluate settings document := by
  refine ⟨fun settings text inner expr hbuild hinner => hinner.isPart_of_build hbuild, ?_⟩
  intro compiling path query hcompile settings
  have hparts := passes_filtersIn_of_compile hcompile
  refine ⟨fun depth text htext => htext.isPart hparts, fun document beyond levels hlevels => ?_⟩
  have hfilter (text : String) (htext : IsPart text.toList path.toList) :
      Walk.keepWithin settings document beyond levels text =
        (Walk.start settings document).filter text := by
    have hlt : text.length < path.length := htext.length_lt
    exact funext fun items => Walk.keepWithin_eq_keep settings document beyond (by omega) items
  refine Walk.apply_withFilter document hfilter (fun s hs => (hparts.segments s hs).own) ?_
  intro s hs expr hexpr v
  exact Walk.evaluate_withFilter v hfilter ((hparts.segments s hs).exprs expr hexpr)

/-- A filter within a filter, applied as many levels deep as the path has characters. -/
theorem Query.evaluate_eq_startWithin_of_nested :
    IsPart "@.a".toList "@[?(@.a)]".toList ∧
    ∃ query : Query, compile .standard "$[?(@[?(@.a)])]" = .ok query ∧
      query.HasFilterWithin .standard 1 "@.a" ∧ "@.a".length + 1 < "$[?(@[?(@.a)])]".length ∧
      (Walk.startWithin .standard (.array [.array [.object [("a", .bool true)]], .array []])
          (fun text _ => .error (.query (.badExpression text .empty))) 15).apply query
        (.array [.array [.object [("a", .bool true)]], .array []]) =
      query.evaluate .standard (.array [.array [.object [("a", .bool true)]], .array []]) := by
  have hbuild : Expr.ofText .standard "@[?(@.a)]" =
      .ok (some (.selector .current [.current, .filter "@.a"])) := by
    with_unfolding_all rfl
  have hcompile : compile .standard "$[?(@[?(@.a)])]" = .ok [.root, .filter "@[?(@.a)]"] := by
    with_unfolding_all rfl
  have hinner : (Expr.selector .current [.current, .filter "@.a"]).HasFilter "@.a" :=
    .segment (by simp)
  have hdepth : Query.HasFilterWithin .standard [.root, .filter "@[?(@.a)]"] 1 "@.a" :=
    .built (.segment (by simp)) hbuild hinner
  obtain ⟨hwithin, hwalk⟩ := evaluate_eq_startWithin.2 _ _ _ hcompile .standard
  refine ⟨evaluate_eq_startWithin.1 _ _ _ _ hbuild hinner, _, hcompile, hdepth,
    (hwithin 1 "@.a" hdepth).2, ?_⟩
  exact hwalk _ _ 15 (by decide)

end PathQuery
