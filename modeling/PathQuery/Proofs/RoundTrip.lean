import PathQuery.Proofs.ExprText

/-!
# Canonical texts compile back

A canonical text means what it was written for, with two exceptions: an anchor inside a path that
stands right behind another anchor or behind `.length`, and a number with a minus sign behind a
match operator. `legible` rules these out everywhere in a query. A legible query compiles back to
itself as long as the constants in it do, and one that is not legible never does.
-/

namespace PathQuery

open Number Text Unicode Outcome

/-- An expression whose right operand is still understood when it is a number behind a match. -/
def Expr.Legible : Expr → Prop
  | .binary op _ right => op = .matchPattern → right.isGrouped = false
  | _ => True

/-- The inspection that a query passes whose canonical text can be understood. -/
def legible : Inspection where
  expr := Expr.Legible
  query path := path.IsChain Segment.Apart

/-- An expression that comes back from its text if it is a constant. -/
def Expr.ReadsBack : Expr → Prop
  | .literal value => value.ReadsBack
  | _ => True

/-- The inspection that a query passes whose floats and documents come back from their texts. -/
def faithful : Inspection where
  expr := Expr.ReadsBack

/-- Two expressions that are the same or compare equal. Floats compare as numbers, so that neither
implies the other. -/
def Expr.Agrees (again expr : Expr) : Prop :=
  again = expr ∨ again.beq expr = true

/-- Two queries that are the same or compare equal. -/
def Query.Agrees (again query : Query) : Prop :=
  again = query ∨ Segment.beqList again query = true

theorem Query.Agrees.length_eq : ∀ {again path : Query}, Agrees again path →
    again.length = path.length
  | _, _, .inl h => congrArg List.length h
  | [], [], .inr _ => rfl
  | [], _ :: _, .inr h => by simp [Segment.beqList] at h
  | _ :: _, [], .inr h => by simp [Segment.beqList] at h
  | _ :: again, _ :: path, .inr h => by
    rw [Segment.beqList, Bool.and_eq_true] at h
    have hrest : Agrees again path := .inr h.2
    rw [List.length_cons, List.length_cons, hrest.length_eq]

namespace Expr

theorem Agrees.of_selector {anchor anchor' : Anchor} {again path : Query}
    (h : Agrees (.selector anchor' again) (.selector anchor path)) : Query.Agrees again path := by
  rcases h with h | h
  · cases h
    exact .inl rfl
  · rw [Expr.beq, Bool.and_eq_true] at h
    exact .inr h.2

theorem Agrees.of_unary {again operand : Expr} {op op' : Operator}
    (h : Agrees (.unary op' again) (.unary op operand)) : again.Agrees operand := by
  rcases h with h | h
  · cases h
    exact .inl rfl
  · rw [Expr.beq, Bool.and_eq_true] at h
    exact .inr h.2

theorem Agrees.of_binary {l r left right : Expr} {op op' : Operator}
    (h : Agrees (.binary op' l r) (.binary op left right)) : l.Agrees left ∧ r.Agrees right := by
  rcases h with h | h
  · cases h
    exact ⟨.inl rfl, .inl rfl⟩
  · rw [Expr.beq, Bool.and_eq_true, Bool.and_eq_true] at h
    exact ⟨.inr h.1.2, .inr h.2⟩

theorem Agrees.exists_eq_unary {again operand : Expr} {op : Operator}
    (h : again.Agrees (.unary op operand)) : ∃ op' operand', again = .unary op' operand' := by
  cases again with
  | unary op' operand' => exact ⟨op', operand', rfl⟩
  | _ => rcases h with h | h <;> simp [Expr.beq] at h

theorem Agrees.exists_eq_binary {again left right : Expr} {op : Operator}
    (h : again.Agrees (.binary op left right)) : ∃ op' l r, again = .binary op' l r := by
  cases again with
  | binary op' l r => exact ⟨op', l, r, rfl⟩
  | _ => rcases h with h | h <;> simp [Expr.beq] at h

end Expr

/-! ## Paths -/

namespace Query

variable {build : ExprBuilder} {lenient : Bool} {path again : List Segment}
  {result : Except QueryFault Words}

theorem ofWords_words (hpath : ∀ s ∈ path, s.Passes wellFormed) :
    ofWords lenient build ((path.map Segment.word).map String.ofList) =
      path.mapM fun s => s.traverse fun expr => Segment.buildExpr build expr.text := by
  rw [ofWords, List.map_map, List.mapM_map]
  refine mapM_congr fun s hs => ?_
  show Segment.ofWord lenient build (String.ofList s.word).toList = _
  rw [String.toList_ofList, Segment.ofWord_word (hpath s hs)]

/-- The words of a path give the path just when every expression in it comes back. -/
theorem ofWords_eq_ok_iff (hpath : ∀ s ∈ path, s.Passes wellFormed) :
    ofWords lenient build ((path.map Segment.word).map String.ofList) = .ok path ↔
      ∀ s ∈ path, ∀ expr ∈ s.exprs, build expr.text = .ok (some expr) := by
  rw [ofWords_words hpath]
  simp only [mapM_eq_ok_self_iff, Segment.traverse_eq_ok_iff, Segment.buildExpr_eq_ok_iff]

/-- If reading a path anew gives an equal path, then every expression in it comes back equal. -/
theorem exists_of_mapM_traverse_beq
    (h : (path.mapM fun s => s.traverse fun expr => Segment.buildExpr build expr.text) = .ok again)
    (heq : Segment.beqList again path = true) {s : Segment} (hs : s ∈ path) {expr : Expr}
    (hexpr : expr ∈ s.exprs) : ∃ again, build expr.text = .ok (some again) ∧ again.beq expr = true := by
  induction path generalizing again with
  | nil => cases hs
  | cons first rest ih =>
    obtain ⟨first', rest', hfirst, hrest, rfl⟩ := mapM_cons_eq_ok.1 h
    rw [Segment.beqList, Bool.and_eq_true] at heq
    rcases List.mem_cons.1 hs with rfl | hs
    · obtain ⟨again, hagain, hbeq⟩ := Segment.exists_of_traverse_beq hfirst heq.1 hexpr
      exact ⟨again, Segment.buildExpr_eq_ok_iff.1 hagain, hbeq⟩
    · exact ih hrest heq.2 hs

/-- If the words of a path give a path that agrees with it, then so does every expression. -/
theorem exists_of_ofWords (hpath : ∀ s ∈ path, s.Passes wellFormed)
    (h : ofWords lenient build ((path.map Segment.word).map String.ofList) = .ok again)
    (heq : Agrees again path) {s : Segment} (hs : s ∈ path) {expr : Expr} (hexpr : expr ∈ s.exprs) :
    ∃ again, build expr.text = .ok (some again) ∧ again.Agrees expr := by
  rcases heq with rfl | heq
  · exact ⟨expr, (ofWords_eq_ok_iff hpath).1 h s hs expr hexpr, .inl rfl⟩
  · rw [ofWords_words hpath] at h
    obtain ⟨again, hagain, hbeq⟩ := exists_of_mapM_traverse_beq h heq hs hexpr
    exact ⟨again, hagain, .inr hbeq⟩

/-- A path that is read anew as a path that agrees with it keeps its anchors apart. -/
theorem isChain_of_ofWords (hcuts : Words.CutsPath path result) {cut : Words}
    (hresult : result = .ok cut) (h : ofWords lenient build cut.words = .ok again)
    (heq : Agrees again path) : path.IsChain Segment.Apart := by
  by_contra hchain
  have hlt := hcuts.length_lt hchain hresult
  have hlength := length_of_mapM h
  rw [heq.length_eq] at hlength
  omega

end Query

/-! ## Expressions -/

namespace Expr

variable {settings : Settings} (hsettings : settings.priorities = Priority.default)

include hsettings

/-- Only the text of a legible expression is built into an expression that agrees with it. The
induction follows how expressions are nested, through the segments of their paths as well. -/
theorem passes_legible_of_build {expr again : Expr} (h : expr.Passes wellFormed)
    (hbuild : build settings expr.text = .ok (some again)) (heq : again.Agrees expr) :
    expr.Passes legible := by
  induction h generalizing again with
  | literal hvalue => exact .literal trivial
  | @selector anchor path hpath hquery hs hx ih =>
    have hsegments : ∀ s ∈ path, s.Passes wellFormed := fun s hmem => ⟨hs s hmem, hx s hmem⟩
    have hcuts := Words.cutsPath_ofSelector hpath.1 hpath.2 hsegments
    rw [text_selector, build_selector hsettings (.selector hpath hquery hs hx)] at hbuild
    obtain ⟨expr, hexpr, he⟩ := map_eq_ok.1 hbuild
    cases he
    obtain ⟨cut, path', hcut, hwords, rfl⟩ := exists_of_ofSelector hexpr
    have hagrees := heq.of_selector
    have hchain := Query.isChain_of_ofWords hcuts hcut hwords hagrees
    rw [hcuts.eq_of_isChain hchain] at hcut
    cases hcut
    refine .selector trivial hchain (fun _ _ => trivial) fun s hmem x hmem' => ?_
    obtain ⟨again, hagain, heq⟩ := Query.exists_of_ofWords hsegments hwords hagrees hmem hmem'
    exact ih s hmem x hmem' hagain heq
  | @unary op operand hop hoperand ih =>
    cases hop
    obtain ⟨op', again, rfl⟩ := heq.exists_eq_unary
    have hagain := build_of_build_unary hsettings (.unary rfl hoperand) hoperand hbuild
    exact .unary trivial (ih hagain heq.of_unary)
  | @binary op left right hop hleft hright ihl ihr =>
    obtain ⟨hnot, hmatch⟩ := hop
    obtain ⟨op', l, r, rfl⟩ := heq.exists_eq_binary
    obtain ⟨hl, hr⟩ := heq.of_binary
    obtain ⟨hbuildLeft, hbuildRight⟩ := build_of_build_binary hsettings hnot
      (.binary ⟨hnot, hmatch⟩ hleft hright) hleft hright hbuild
    have hgrouped : op = .matchPattern → right.isGrouped = false := by
      rintro rfl
      obtain ⟨value, rfl⟩ := hmatch rfl
      cases hgrouped : (literal value).isGrouped with
      | false => rfl
      | true =>
        rw [ofRight_grouped hright hgrouped] at hbuildRight
        cases hbuildRight
    rw [ofRight_text hright hmatch hgrouped] at hbuildRight
    exact .binary hgrouped (ihl hbuildLeft hl) (ihr hbuildRight hr)

/-- A selector whose anchors keep apart comes back just when every expression in it does. -/
theorem build_selector_iff {anchor : Anchor} {path : Query}
    (h : (selector anchor path).Passes wellFormed) (hchain : path.IsChain Segment.Apart) :
    build settings (selector anchor path).text = .ok (some (.selector anchor path)) ↔
      ∀ s ∈ path, ∀ x ∈ s.exprs, build settings x.text = .ok (some x) := by
  obtain ⟨⟨hhead, hlength⟩, hquery⟩ := passes_selector_iff.1 h
  have hcut := (Words.cutsPath_ofSelector hhead hlength hquery.segments).eq_of_isChain hchain
  rw [text_selector, build_selector hsettings h, ← Query.ofWords_eq_ok_iff hquery.segments]
  constructor
  · intro hbuild
    obtain ⟨expr, hexpr, he⟩ := map_eq_ok.1 hbuild
    cases he
    obtain ⟨cut, path', hcut', hwords, he⟩ := exists_of_ofSelector hexpr
    cases he
    rw [hcut] at hcut'
    cases hcut'
    exact hwords
  · intro hwords
    rw [ofSelector_of_cut hcut hwords]
    rfl

/-- The text of a legible expression is built into the expression just when all constants in it
come back from their texts. -/
theorem build_text_iff {expr : Expr} (h : expr.Passes wellFormed) (hlegible : expr.Passes legible) :
    build settings expr.text = .ok (some expr) ↔ expr.Passes faithful := by
  induction h with
  | @literal value hvalue =>
    have hpasses : (literal value).Passes faithful ↔ value.ReadsBack :=
      ⟨fun h => h.expr, fun h => .literal h⟩
    show build settings value.text = _ ↔ _
    rw [build_literal hvalue, hpasses, ← Literal.read_text_iff hvalue, map_eq_ok]
    simp only [Option.some.injEq, literal.injEq, exists_eq_right]
  | @selector anchor path hpath hquery hs hx ih =>
    obtain ⟨-, hchain, hlegible⟩ := passes_selector_iff.1 hlegible
    rw [build_selector_iff hsettings (.selector hpath hquery hs hx) hchain]
    constructor
    · intro hback
      refine .selector trivial trivial (fun _ _ => trivial) fun s hmem x hmem' => ?_
      exact (ih s hmem x hmem' ((hlegible s hmem).exprs x hmem')).1 (hback s hmem x hmem')
    · intro hfaithful s hmem x hmem'
      obtain ⟨-, -, hfaithful⟩ := passes_selector_iff.1 hfaithful
      exact (ih s hmem x hmem' ((hlegible s hmem).exprs x hmem')).2 ((hfaithful s hmem).exprs x hmem')
  | @unary op operand hop hoperand ih =>
    cases hop
    cases hlegible with
    | unary _ hlegible =>
      constructor
      · intro hbuild
        have hback := build_of_build_unary hsettings (.unary rfl hoperand) hoperand hbuild
        exact .unary trivial ((ih hlegible).1 hback)
      · intro hfaithful
        cases hfaithful with
        | unary _ hfaithful =>
          exact build_unary hsettings (.unary rfl hoperand) hoperand ((ih hlegible).2 hfaithful)
  | @binary op left right hop hleft hright ihl ihr =>
    obtain ⟨hnot, hmatch⟩ := hop
    have hbinary : (binary op left right).Passes wellFormed := .binary ⟨hnot, hmatch⟩ hleft hright
    cases hlegible with
    | binary hgrouped hlegibleLeft hlegibleRight =>
      have hr := @ofRight_text settings op right hright hmatch hgrouped
      constructor
      · intro hbuild
        obtain ⟨hl, hr'⟩ := build_of_build_binary hsettings hnot hbinary hleft hright hbuild
        rw [hr] at hr'
        exact .binary trivial ((ihl hlegibleLeft).1 hl) ((ihr hlegibleRight).1 hr')
      · intro hfaithful
        cases hfaithful with
        | binary _ hfaithfulLeft hfaithfulRight =>
          rw [(ihr hlegibleRight).2 hfaithfulRight] at hr
          exact build_binary hsettings hnot hbinary hleft hright
            ((ihl hlegibleLeft).2 hfaithfulLeft) hr

end Expr

/-! ## Queries -/

namespace Query

section Render

variable {settings : Settings} (hsettings : settings.priorities = Priority.default) {query : Query}

include hsettings

/-- Only the canonical text of a legible query compiles to a query that agrees with it. -/
theorem passes_legible_of_compile_render (hroot : query.head? = some .root)
    (h : Query.Passes wellFormed query) {again : Query}
    (hcompile : compile settings query.render = .ok again) (heq : Agrees again query) :
    Query.Passes legible query := by
  have hcuts := Words.cutsPath_ofQuery hroot h.segments
  rw [compile, render, String.toList_ofList, text] at hcompile
  obtain ⟨cut, hcut, hcompile⟩ := bind_eq_ok.1 hcompile
  split at hcompile
  · have hchain := isChain_of_ofWords hcuts hcut hcompile heq
    rw [hcuts.eq_of_isChain hchain] at hcut
    cases hcut
    refine ⟨hchain, fun s hs => ⟨trivial, fun expr hexpr => ?_⟩⟩
    obtain ⟨again, hagain, hagrees⟩ := exists_of_ofWords h.segments hcompile heq hs hexpr
    exact Expr.passes_legible_of_build hsettings ((h.segments s hs).exprs expr hexpr) hagain hagrees
  · cases hcompile

/-- The canonical text of a query compiles to the query just when the query is legible and all
constants in it come back from their texts. -/
theorem compile_render_iff (hroot : query.head? = some .root) (h : Query.Passes wellFormed query) :
    compile settings query.render = .ok query ↔
      Query.Passes legible query ∧ Query.Passes faithful query := by
  have hiff (hlegible : Query.Passes legible query) :
      compile settings query.render = .ok query ↔ Query.Passes faithful query := by
    have hcut := (Words.cutsPath_ofQuery hroot h.segments).eq_of_isChain hlegible.own
    have hcompile : compile settings query.render = ofWords settings.lenient
        (Expr.build settings) ((query.map Segment.word).map String.ofList) := by
      rw [compile, render, String.toList_ofList, text, hcut]
      rfl
    rw [hcompile, ofWords_eq_ok_iff h.segments]
    have hexprs (s : Segment) (hs : s ∈ query) (x : Expr) (hx : x ∈ s.exprs) :
        Expr.build settings x.text = .ok (some x) ↔ x.Passes faithful :=
      Expr.build_text_iff hsettings ((h.segments s hs).exprs x hx)
        ((hlegible.segments s hs).exprs x hx)
    constructor
    · intro hback
      refine ⟨trivial, fun s hs => ⟨trivial, fun x hx => ?_⟩⟩
      exact (hexprs s hs x hx).1 (hback s hs x hx)
    · intro hfaithful s hs x hx
      exact (hexprs s hs x hx).2 ((hfaithful.segments s hs).exprs x hx)
  constructor
  · intro hcompile
    have hlegible := passes_legible_of_compile_render hsettings hroot h hcompile (.inl rfl)
    exact ⟨hlegible, (hiff hlegible).1 hcompile⟩
  · rintro ⟨hlegible, hfaithful⟩
    exact (hiff hlegible).2 hfaithful

end Render

end Query

/-! ## Queries whose anchors lead -/

/-- The inspection that a query passes whose anchors all stand at the start of a path. -/
def anchorsLead : Inspection where
  query path := ∀ s ∈ path.tail, s.isAnchor = false

/-- An expression that does not match against a number with a minus sign. -/
def Expr.MatchesUnsigned : Expr → Prop
  | .binary .matchPattern _ (.literal (.integer n)) => 0 ≤ n
  | .binary .matchPattern _ (.literal (.float x)) => isSignNegative x = false
  | _ => True

/-- The inspection that a query passes which nowhere matches against a number with a minus sign. -/
def unsignedMatches : Inspection where
  expr := Expr.MatchesUnsigned

theorem Segment.isChain_apart_of_tail {path : List Segment}
    (h : ∀ s ∈ path.tail, s.isAnchor = false) : path.IsChain Apart := by
  cases path with
  | nil => exact .nil
  | cons first rest =>
    induction rest generalizing first with
    | nil => exact .singleton first
    | cons second rest ih =>
      refine .cons_cons (fun _ => h second List.mem_cons_self) (ih second fun s hs => ?_)
      exact h s (List.mem_cons_of_mem _ hs)

section Field

variable (key : String)

theorem Expr.passes_wellFormed_field :
    (selector .current [.current, .key key]).Passes wellFormed :=
  passes_field ⟨rfl, le_rfl⟩ trivial trivial trivial

theorem Expr.passes_legible_field : (selector .current [.current, .key key]).Passes legible :=
  passes_field trivial (Segment.isChain_apart_of_tail (by simp [Segment.isAnchor])) trivial trivial

theorem Expr.passes_faithful_field : (selector .current [.current, .key key]).Passes faithful :=
  passes_field trivial trivial trivial trivial

/-- The selector of a field comes back from its text, whatever the key is. -/
theorem Expr.build_field {settings : Settings} (hsettings : settings.priorities = Priority.default) :
    build settings (selector .current [.current, .key key]).text =
      .ok (some (.selector .current [.current, .key key])) :=
  (build_text_iff hsettings (passes_wellFormed_field key) (passes_legible_field key)).2
    (passes_faithful_field key)

end Field

theorem Expr.legible_of_matchesUnsigned {expr : Expr} (h : expr.WellFormed)
    (hmatches : expr.MatchesUnsigned) : expr.Legible := by
  cases expr with
  | binary op left right =>
    rintro rfl
    obtain ⟨value, rfl⟩ := h.2 rfl
    cases value with
    | integer n =>
      have hn : 0 ≤ n := hmatches
      exact decide_eq_false (Int64.not_lt.2 hn)
    | float x => exact hmatches
    | _ => rfl
  | _ => trivial

/-- Where anchors stand only at the start of a path and nothing is matched against a number with a
minus sign, the canonical text can be understood. -/
theorem Query.passes_legible {query : Query} (h : Query.Passes wellFormed query)
    (hanchors : Query.Passes anchorsLead query) (hmatches : Query.Passes unsignedMatches query) :
    Query.Passes legible query := by
  refine (h.and (hanchors.and hmatches)).imp ?_ (fun _ _ => trivial) ?_
  · rintro expr ⟨hexpr, -, hunsigned⟩
    exact Expr.legible_of_matchesUnsigned hexpr hunsigned
  · rintro path ⟨-, hlead, -⟩
    exact Segment.isChain_apart_of_tail hlead

/-- A query that was compiled from a path comes back from its canonical text, if its anchors lead
and nothing in it is matched against a number with a minus sign. -/
theorem Query.compile_render_of_anchorsLead {settings : Settings} {path : String} {query : Query}
    (hsettings : settings.priorities = Priority.default) (h : compile settings path = .ok query)
    (hanchors : Query.Passes anchorsLead query) (hmatches : Query.Passes unsignedMatches query)
    (hfaithful : Query.Passes faithful query) :
    compile settings query.render = .ok query := by
  obtain ⟨hwell, hroot⟩ := passes_of_compile h
  exact (compile_render_iff hsettings hroot hwell).2
    ⟨passes_legible hwell hanchors hmatches, hfaithful⟩

/-- The expression `@.b * -1.5e3`. -/
def Expr.scaledField : Expr :=
  .binary .mul (.selector .current [.current, .key "b"]) (.literal (.float (-1.5e3)))

theorem Query.passes_script {i : Inspection} {expr : Expr}
    (hquery : i.query [.root, .descent, .script expr]) (hsegment : ∀ s, i.segment s)
    (h : expr.Passes i) : Passes i [.root, .descent, .script expr] := by
  refine ⟨hquery, fun s hs => ⟨hsegment s, fun x hx => ?_⟩⟩
  simp only [List.mem_cons, List.not_mem_nil, or_false] at hs
  rcases hs with rfl | rfl | rfl
  · cases hx
  · cases hx
  · rw [List.mem_singleton.1 hx]
    exact h

theorem Query.compile_render_of_scaledField :
    compile .standard "$..[(@.b * -1.5e3)]" = .ok [.root, .descent, .script Expr.scaledField] ∧
      compile .standard (render [.root, .descent, .script Expr.scaledField]) =
        .ok [.root, .descent, .script Expr.scaledField] := by
  have h : compile .standard "$..[(@.b * -1.5e3)]" =
      .ok [.root, .descent, .script Expr.scaledField] := by
    with_unfolding_all rfl
  have hread : readFloat (FloatStyle.literal.write (-1.5e3)) = some (-1.5e3) := by
    with_unfolding_all rfl
  have hanchors : Passes anchorsLead [.root, .descent, .script Expr.scaledField] :=
    passes_script (by simp [anchorsLead, Segment.isAnchor]) (fun _ => trivial)
      (Expr.passes_fieldOperation trivial trivial (by simp [anchorsLead, Segment.isAnchor]) trivial
        trivial trivial)
  have hmatches : Passes unsignedMatches [.root, .descent, .script Expr.scaledField] :=
    passes_script trivial (fun _ => trivial)
      (Expr.passes_fieldOperation trivial trivial trivial trivial trivial trivial)
  have hfaithful : Passes faithful [.root, .descent, .script Expr.scaledField] :=
    passes_script trivial (fun _ => trivial)
      (Expr.passes_fieldOperation trivial trivial trivial trivial trivial hread)
  exact ⟨h, compile_render_of_anchorsLead rfl h hanchors hmatches hfaithful⟩

/-! ## Queries with anchors anywhere -/

/-- Under the standard settings, the canonical text of a query that was compiled from a path gives
the query back exactly when it is legible and all constants in it come back from their texts. That
of a query that is not legible does not even give an equal one. -/
theorem Query.compile_render_standard {path : String} {query : Query}
    (h : compile .standard path = .ok query) :
    (compile .standard query.render = .ok query ↔
        Passes legible query ∧ Passes faithful query) ∧
      (¬Passes legible query → ∀ again, compile .standard query.render = .ok again →
        Segment.beqList again query = false) := by
  obtain ⟨hwell, hroot⟩ := passes_of_compile h
  refine ⟨compile_render_iff rfl hroot hwell, fun hlegible again hagain => ?_⟩
  cases heq : Segment.beqList again query with
  | false => rfl
  | true =>
    exact absurd (passes_legible_of_compile_render rfl hroot hwell hagain (.inr heq)) hlegible

/-- An anchor behind a key is kept, and the query is legible. -/
theorem Query.compile_render_of_inner_root :
    compile .standard "$.a.$" = .ok [.root, .key "a", .root] ∧
      compile .standard (render [.root, .key "a", .root]) = .ok [.root, .key "a", .root] := by
  have h : compile .standard "$.a.$" = .ok [.root, .key "a", .root] := by
    with_unfolding_all rfl
  have hpasses {i : Inspection} (hquery : i.query [.root, .key "a", .root])
      (hsegment : ∀ s, i.segment s) : Passes i [.root, .key "a", .root] := by
    refine ⟨hquery, fun s hs => ⟨hsegment s, fun x hx => ?_⟩⟩
    simp only [List.mem_cons, List.not_mem_nil, or_false] at hs
    rcases hs with rfl | rfl | rfl <;> cases hx
  have hlegible : Passes legible [.root, .key "a", .root] :=
    hpasses (by simp [legible, Segment.Apart, Segment.runsOn, Segment.isAnchor]) fun _ => trivial
  exact ⟨h, (compile_render_standard h).1.2 ⟨hlegible, hpasses trivial fun _ => trivial⟩⟩

/-- An anchor behind an anchor is not: the two run into one word. -/
theorem Query.compile_render_ne_of_doubled_root :
    compile .standard "$.$" = .ok [.root, .root] ∧
      ∀ again, compile .standard (render [.root, .root]) ≠ .ok again := by
  have h : compile .standard "$.$" = .ok [.root, .root] := by
    with_unfolding_all rfl
  have hagain : compile .standard (render [.root, .root]) =
      .error (.badAfterAnchor '$' '$') := by
    with_unfolding_all rfl
  refine ⟨h, fun again heq => ?_⟩
  rw [hagain] at heq
  cases heq

end PathQuery
