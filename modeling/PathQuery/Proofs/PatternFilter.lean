import PathQuery.Proofs.FieldFilter

/-!
# Filtering by a pattern

A pattern stands between slashes, and the builder of expressions looks past whatever it holds. The
readers that cut a path into words and take a filter out of its brackets know nothing of patterns: to
them the brackets and quotes of a pattern are like any others. A path with such a filter therefore
compiles to it just when these happen to close.
-/

namespace PathQuery

open Text Unicode Split

/-- The text that matches the field `k` with a pattern. -/
def patternText (pattern : String) : String :=
  "@.k =~ /" ++ pattern ++ "/"

/-- The path that keeps the members whose field matches a pattern. -/
def patternFilter (pattern : String) : String :=
  "$[?(" ++ patternText pattern ++ ")]"

/-- The expression `@.k =~ /pattern/`. -/
def Expr.fieldMatches (pattern : String) : Expr :=
  .binary .matchPattern (.selector .current [.current, .key "k"])
    (.literal (.string ("/" ++ pattern ++ "/")))

/-- A pattern whose brackets and quotes close in the parentheses of a filter. Brackets of all kinds
count alike, so that the pattern may close the parenthesis before it and open it again. -/
structure FitsFilter (pattern : List Char) : Prop where
  brackets : Counter.run .brackets ⟨1, .outside⟩ pattern = some ⟨1, .outside⟩
  parentheses : Closed .parentheses pattern

theorem toList_patternText (pattern : String) :
    (patternText pattern).toList = "@.k =~ /".toList ++ (pattern.toList ++ ['/']) := by
  simp [patternText]

theorem patternFilter_eq_render (pattern : String) :
    patternFilter pattern = Query.render [.root, .filter (patternText pattern)] := by
  apply String.toList_injective
  simp [patternFilter, Query.toList_render_filter, bracketed, parenthesised]

/-! ## What the builder reads -/

namespace Expr

variable {settings : Settings} {pattern : List Char}

theorem ofRight_slashed (build : ExprBuilder) (pattern : List Char) :
    ofRight build .matchPattern (' ' :: slashed pattern) =
      .ok (some (.literal (.string (String.ofList (slashed pattern))))) := by
  have hends : HasEnds (slashed pattern) := .group rfl rfl
  rw [ofRight, if_pos rfl, trim_cons_space, hends.trim_eq, slashed, Literal.read_of_head rfl,
    Literal.readForm]
  simp [isQuote, Except.map]

/-- A match with a pattern is split at its operator, whatever the pattern holds. -/
theorem build_match (hsettings : settings.priorities = Priority.default) {left : List Char}
    {expr : Expr} (hends : HasEnds left) (hleft : ∀ q : Operator, Silent (.operator q) left)
    (hhead : left.head? ≠ some '(') (hbuild : build settings left = .ok (some expr))
    (hpattern : Hidden '/' pattern) :
    build settings (left ++ ' ' :: (Operator.matchPattern.symbol ++ ' ' :: slashed pattern)) =
      .ok (some (.binary .matchPattern expr
        (.literal (.string (String.ofList (slashed pattern)))))) := by
  have hright : HasEnds (slashed pattern) := .group rfl rfl
  have hsplit (cs : List Char) : ofSplit settings.lenient (build settings) cs
      (.operator .matchPattern, left ++ [' '], ' ' :: slashed pattern) =
        .ok (some (.binary .matchPattern expr
          (.literal (.string (String.ofList (slashed pattern)))))) := by
    have hblank : isBlank (' ' :: slashed pattern) = false := hright.isBlank_eq
    rw [ofSplit, hblank, hends.isBlank_append, build_eq_of_trim_eq (trim_append_right rfl), hbuild,
      ofRight_slashed]
    rfl
  rw [build_operation_eq_ofParts hends hright hhead, ofParts, hsettings,
    candidates_default_of_sides (sides_match hends hleft hpattern),
    firstResult_cons_of_some (hsplit _)]
  rfl

/-- The pattern comes out of the text as it is, slashes included. -/
theorem ofText_patternText {pattern : String} (h : Hidden '/' pattern.toList) :
    ofText .standard (patternText pattern) = .ok (some (.fieldMatches pattern)) := by
  have hfield (q : Operator) : Silent (.operator q) ".k".toList := silent_of_all rfl
  have hleft (q : Operator) : Silent (.operator q) "@.k".toList :=
    (silent_anchor q .current).append (hfield q)
  have hends : HasEnds "@.k".toList := ⟨⟨'@', rfl, rfl⟩, ⟨'k', rfl, rfl⟩⟩
  have hbuild : build .standard "@.k".toList =
      .ok (some (.selector .current [.current, .key "k"])) := by
    with_unfolding_all rfl
  have htext : (patternText pattern).toList = "@.k".toList ++ ' ' ::
      (Operator.matchPattern.symbol ++ ' ' :: slashed pattern.toList) :=
    toList_patternText pattern
  have hpattern : String.ofList (slashed pattern.toList) = "/" ++ pattern ++ "/" := by
    apply String.toList_injective
    simp [slashed]
  rw [ofText, htext, build_match rfl hends hleft (by decide) hbuild h, hpattern]
  rfl

end Expr

/-! ## What the other readers count -/

/-- What follows a text has no quotes, so that it cannot end quotes that the text leaves open. -/
theorem run_append_eq_iff {d : Delimiters} {cs rest : List Char} {k n m : Nat}
    (hrest : rest.any isQuote = false)
    (hrun : ∀ i, Counter.run d ⟨i, .outside⟩ rest = some ⟨m, .outside⟩ ↔ i = n) :
    Counter.run d ⟨k, .outside⟩ (cs ++ rest) = some ⟨m, .outside⟩ ↔
      Counter.run d ⟨k, .outside⟩ cs = some ⟨n, .outside⟩ := by
  rw [Counter.run_append]
  constructor
  · intro h
    obtain ⟨⟨i, quoting⟩, hcs, h⟩ := Option.bind_eq_some_iff.1 h
    have houtside : Quoting.outside.WellFormed := trivial
    have hquoting : quoting.WellFormed := Counter.wellFormed_of_run houtside hcs
    obtain rfl : quoting = .outside := Counter.outside_of_run hquoting hrest h rfl
    rw [hcs, (hrun i).1 h]
  · intro h
    rw [h]
    exact (hrun n).2 rfl

theorem closed_brackets_iff (pattern : String) :
    Closed .brackets (parenthesised (patternText pattern).toList) ↔
      Counter.run .brackets ⟨1, .outside⟩ pattern.toList = some ⟨1, .outside⟩ := by
  have htext : parenthesised (patternText pattern).toList =
      "(@.k =~ /".toList ++ (pattern.toList ++ ['/', ')']) := by
    simp [parenthesised, toList_patternText]
  have hfront : Counter.run .brackets Counter.start "(@.k =~ /".toList = some ⟨1, .outside⟩ := by
    decide
  rw [htext, Closed, Counter.run_append, hfront]
  refine run_append_eq_iff rfl fun i => ?_
  cases i <;> simp [Counter.run, Counter.step, isQuote, isOpening, isClosing, Quoting.of]

theorem closed_parentheses_iff (pattern : String) :
    Closed .parentheses (patternText pattern).toList ↔ Closed .parentheses pattern.toList := by
  have hfront : Counter.run .parentheses Counter.start "@.k =~ /".toList = some Counter.start := by
    decide
  rw [toList_patternText, Closed, Counter.run_append, hfront]
  refine run_append_eq_iff rfl fun i => ?_
  simp [Counter.run, Counter.step, isQuote, Quoting.of]

theorem isFilterText_iff (pattern : String) :
    IsFilterText (patternText pattern).toList ↔ FitsFilter pattern.toList := by
  constructor
  · intro h
    exact ⟨(closed_brackets_iff pattern).1 h.brackets, (closed_parentheses_iff pattern).1 h.parentheses⟩
  · intro h
    refine ⟨(closed_brackets_iff pattern).2 h.brackets,
      (closed_parentheses_iff pattern).2 h.parentheses, ?_⟩
    rw [toList_patternText]
    rfl

/-! ## Compiling the filter -/

/-- A filter compiles to its own text just when it could stand in a path at all. -/
theorem Query.compile_filter_iff {settings : Settings}
    (hsettings : settings.priorities = Priority.default) (text : String) :
    compile settings (render [.root, .filter text]) = .ok [.root, .filter text] ↔
      IsFilterText text.toList := by
  constructor
  · intro h
    exact ((passes_of_compile h).1.segments (.filter text) (by simp)).own
  · exact compile_filter hsettings

/-- A bracket right behind the anchor that nothing closes. -/
theorem Query.compile_of_takeBracket_eq_none {settings : Settings} {path : String}
    {rest : List Char} (hpath : path.toList = '$' :: '[' :: rest)
    (h : takeBracket 0 none rest = none) : compile settings path = .error (.openBracket 1) := by
  have hscan : Words.scan 1 false ('[' :: rest) = .error (.openBracket 1) := by
    rw [Words.scan.eq_def]
    simp only [Char.reduceEq, if_false, if_true]
    split
    · rfl
    · next hsome => rw [h] at hsome; cases hsome
  have hcut : Words.ofQuery ('$' :: '[' :: rest) = .error (.openBracket 1) := by
    rw [Words.ofQuery, if_pos (.inr rfl), Words.ofAnchor, hscan]
    rfl
  rw [compile, hpath, hcut]
  rfl

/-- A filter with a pattern between slashes is built as a match whatever the pattern holds, but a
path with such a filter compiles to it only if the brackets and quotes of the pattern close in it. -/
theorem Query.compile_patternFilter_iff {pattern : String} (h : Hidden '/' pattern.toList) :
    Expr.ofText .standard (patternText pattern) = .ok (some (.fieldMatches pattern)) ∧
    (compile .standard (patternFilter pattern) = .ok [.root, .filter (patternText pattern)] ↔
      FitsFilter pattern.toList) := by
  refine ⟨Expr.ofText_patternText h, ?_⟩
  rw [patternFilter_eq_render, compile_filter_iff rfl, isFilterText_iff]

/-- Brackets and quotes that close, and an escaped slash, do no harm. -/
theorem Query.compile_patternFilter_of_closed :
    Hidden '/' "(a|b)[0-9]\\/'x'".toList ∧
    Expr.ofText .standard "@.k =~ /(a|b)[0-9]\\/'x'/" =
      .ok (some (.fieldMatches "(a|b)[0-9]\\/'x'")) ∧
    compile .standard "$[?(@.k =~ /(a|b)[0-9]\\/'x'/)]" =
      .ok [.root, .filter "@.k =~ /(a|b)[0-9]\\/'x'/"] := by
  have hfront : Hidden '/' "(a|b)[0-9]".toList := .of_all rfl
  have hback : Hidden '/' "'x'".toList := .of_all rfl
  have hpattern : Hidden '/' "(a|b)[0-9]\\/'x'".toList := hfront.append (.escape '/' hback)
  have hfits : FitsFilter "(a|b)[0-9]\\/'x'".toList := ⟨by decide, by unfold Closed; decide⟩
  have htext : patternText "(a|b)[0-9]\\/'x'" = "@.k =~ /(a|b)[0-9]\\/'x'/" := by decide
  have hpath : patternFilter "(a|b)[0-9]\\/'x'" = "$[?(@.k =~ /(a|b)[0-9]\\/'x'/)]" := by decide
  obtain ⟨hbuild, hcompile⟩ := compile_patternFilter_iff hpattern
  rw [htext, hpath] at hcompile
  rw [htext] at hbuild
  exact ⟨hpattern, hbuild, hcompile.2 hfits⟩

/-- An apostrophe in a pattern opens quotes that swallow the end of the bracket. -/
theorem Query.compile_patternFilter_of_apostrophe :
    Hidden '/' "it's".toList ∧
    compile .standard "$[?(@.k =~ /it's/)]" = .error (.openBracket 1) := by
  have hopen : takeBracket 0 none "?(@.k =~ /it's/)]".toList = none :=
    Option.isNone_iff_eq_none.1 (by decide +kernel)
  exact ⟨.of_all rfl, compile_of_takeBracket_eq_none rfl hopen⟩

end PathQuery
