import PathQuery.Proofs.ConstantText
import PathQuery.Proofs.OperatorSearch
import PathQuery.Proofs.PathText

/-!
# Building an expression from its canonical text

Each kind of expression is taken apart where it was put together: a constant is read, a selector
is cut, and an operation is split at its operator. The lemmas here say so for one step, in both
directions; what the builder makes of the parts is left open.
-/

namespace PathQuery

open Number Text Unicode Outcome

/-! ## Parentheses around the whole -/

theorem Literal.WellFormed.head?_text_ne {value : Literal} (h : value.WellFormed) :
    value.text.head? ≠ some '(' := by
  cases value with
  | null => decide
  | bool b => cases b <;> decide
  | integer n =>
    intro hhead
    obtain ⟨rest, htext⟩ := List.head?_eq_some_iff.1 hhead
    have hmem : '(' ∈ intText n.toInt := by
      show '(' ∈ (Literal.integer n).text
      rw [htext]
      exact List.mem_cons_self
    rcases mem_intText hmem with hc | hc <;> exact absurd hc (by decide)
  | float x =>
    obtain ⟨body, hbody, hwrite⟩ := exists_write_eq h
    obtain ⟨d, rest, rfl, hd⟩ := hbody.exists_cons
    show (FloatStyle.literal.write x).head? ≠ some '('
    rw [hwrite]
    split
    · exact fun hhead => absurd (Option.some.inj hhead) (by decide)
    · intro hhead
      rw [Option.some.inj hhead] at hd
      exact absurd hd (by decide)
  | string s => exact fun hhead => absurd (Option.some.inj hhead) (by decide)
  | json v =>
    obtain ⟨o, inner, c, htext, hends, -⟩ := Value.exists_text_of_isContainer h
    show v.text.head? ≠ some '('
    rw [htext]
    rcases hends with ⟨rfl, -⟩ | ⟨rfl, -⟩
    · exact fun hhead => absurd (Option.some.inj hhead) (by decide)
    · exact fun hhead => absurd (Option.some.inj hhead) (by decide)

namespace Expr

theorem text_unary (op : Operator) (operand : Expr) :
    (unary op operand).text = op.symbol ++ operand.operandText := rfl

theorem text_binary (op : Operator) (left right : Expr) : (binary op left right).text =
    left.operandText ++ ' ' :: (op.symbol ++ ' ' :: right.operandText) := rfl

theorem text_selector (anchor : Anchor) (path : List Segment) :
    (selector anchor path).text = Segment.pathText path := rfl

theorem unwrap_of_head?_ne {cs : List Char} (h : cs.head? ≠ some '(') : unwrap cs = none := by
  unfold unwrap
  split
  · exact absurd rfl h
  · rfl

/-- An operand that is not grouped does not start with a parenthesis. -/
theorem head?_text_ne {expr : Expr} (h : expr.Passes wellFormed) (hgrouped : expr.isGrouped = false) :
    expr.text.head? ≠ some '(' := by
  cases h with
  | literal hvalue => exact Literal.WellFormed.head?_text_ne hvalue
  | @selector anchor path hpath =>
    obtain ⟨rest, -, htext⟩ := exists_selectorText_eq hpath.1
    rw [text_selector, htext]
    cases anchor <;> exact fun hhead => absurd (Option.some.inj hhead) (by decide)
  | unary => cases hgrouped
  | binary => cases hgrouped

/-- The parentheses of the operands are not taken for parentheses around the whole. -/
theorem unwrap_text {expr : Expr} (h : expr.Passes wellFormed) : unwrap expr.text = none := by
  cases h with
  | literal hvalue => exact unwrap_of_head?_ne (Literal.WellFormed.head?_text_ne hvalue)
  | selector hpath hquery hs hx =>
    exact unwrap_of_head?_ne (head?_text_ne (.selector hpath hquery hs hx) rfl)
  | unary hop _ =>
    cases hop
    exact unwrap_of_head?_ne fun hhead => absurd (Option.some.inj hhead) (by decide)
  | @binary op left right _ hleft _ =>
    rw [text_binary]
    cases hgrouped : left.isGrouped with
    | false =>
      obtain ⟨c, hc, -⟩ := hleft.hasEnds.head
      have hne := head?_text_ne hleft hgrouped
      have hoperand : left.operandText = left.text := by rw [operandText, hgrouped]; rfl
      refine unwrap_of_head?_ne ?_
      rw [hoperand, List.head?_append, hc]
      rw [hc] at hne
      exact hne
    | true =>
      have hoperand : left.operandText = parenthesised left.text := by rw [operandText, hgrouped]; rfl
      have htext : left.operandText ++ ' ' :: (op.symbol ++ ' ' :: right.operandText) =
          '(' :: (left.text ++ ')' :: (' ' :: (op.symbol ++ ' ' :: right.operandText))) := by
        rw [hoperand]
        simp [parenthesised]
      have hbalance := parenthesesBalance_closing
        (' ' :: (op.symbol ++ ' ' :: right.operandText)).dropLast hleft.balanced_text.parentheses
      rw [htext, unwrap, if_neg]
      rintro ⟨-, hbalance'⟩
      rw [List.dropLast_append_of_ne_nil (List.cons_ne_nil _ _),
        List.dropLast_cons_of_ne_nil (List.cons_ne_nil _ _), hbalance] at hbalance'
      cases hbalance'

/-! ## One step of the builder -/

variable {settings : Settings}

theorem build_eq_of_trim_eq {cs ds : List Char} (h : trim cs = trim ds) :
    build settings cs = build settings ds := by
  rw [build_eq, build_eq settings ds, step, step, h]

theorem build_parenthesised {cs : List Char} (h : Closed .parentheses cs) :
    build settings (parenthesised cs) = build settings cs := by
  have htrim := (hasEnds_parenthesised cs).trim_eq
  have hunwrap := unwrap_parenthesised h
  rw [build_eq, step, htrim]
  rw [parenthesised] at hunwrap ⊢
  simp only [hunwrap]

theorem build_eq_ofParts_of_trim {cs rest : List Char} {c : Char} (htrim : trim cs = c :: rest)
    (h : unwrap (c :: rest) = none) :
    build settings cs = ofParts settings (build settings) (c :: rest) := by
  rw [build_eq, step, htrim]
  simp only [h]

theorem build_eq_ofParts {cs : List Char} (hends : HasEnds cs) (h : unwrap cs = none) :
    build settings cs = ofParts settings (build settings) cs := by
  obtain ⟨c, rest, rfl⟩ := List.exists_cons_of_ne_nil hends.ne_nil
  exact build_eq_ofParts_of_trim hends.trim_eq h

/-- A parenthesis at the end of an operation does not belong to its front. -/
theorem build_operation_eq_ofParts {left right : List Char} (hleft : HasEnds left)
    (hright : HasEnds right) (hhead : left.head? ≠ some '(') (op : Operator) :
    build settings (left ++ ' ' :: (op.symbol ++ ' ' :: right)) =
      ofParts settings (build settings) (left ++ ' ' :: (op.symbol ++ ' ' :: right)) := by
  have hwhole := hleft.join hright (' ' :: (op.symbol ++ [' ']))
  simp only [List.cons_append, List.append_assoc, List.nil_append] at hwhole
  obtain ⟨c, hc, -⟩ := hleft.head
  rw [hc] at hhead
  refine build_eq_ofParts hwhole (unwrap_of_head?_ne ?_)
  rw [List.head?_append, hc]
  exact hhead

theorem build_text_eq_ofParts {expr : Expr} (h : expr.Passes wellFormed) :
    build settings expr.text = ofParts settings (build settings) expr.text :=
  build_eq_ofParts h.hasEnds (unwrap_text h)

/-- Parentheses around an operand and blanks beside it make no difference. -/
theorem build_operandText {expr : Expr} (h : expr.Passes wellFormed) :
    build settings expr.operandText = build settings expr.text := by
  unfold operandText
  split
  · exact build_parenthesised h.balanced_text.parentheses
  · rfl

theorem build_operandText_append {expr : Expr} (h : expr.Passes wellFormed) :
    build settings (expr.operandText ++ [' ']) = build settings expr.text := by
  rw [build_eq_of_trim_eq (trim_append_right rfl), build_operandText h]

theorem build_cons_operandText {expr : Expr} (h : expr.Passes wellFormed) :
    build settings (' ' :: expr.operandText) = build settings expr.text := by
  rw [build_eq_of_trim_eq trim_cons_space, build_operandText h]

section FirstResult

variable {α β ε : Type} {f : α → Except ε (Option β)} {xs ys : List α}

theorem firstResult_append_of_none (h : ∀ x ∈ xs, f x = .ok none) :
    firstResult f (xs ++ ys) = firstResult f ys := by
  induction xs with
  | nil => rfl
  | cons x xs ih =>
    rw [List.cons_append, firstResult, h x List.mem_cons_self]
    exact ih fun y hy => h y (List.mem_cons_of_mem _ hy)

theorem firstResult_eq_none (h : ∀ x ∈ xs, f x = .ok none) : firstResult f xs = .ok none := by
  have happend := @firstResult_append_of_none _ _ _ f xs [] h
  rw [List.append_nil] at happend
  exact happend

theorem firstResult_cons_of_some {x : α} {y : β} (h : f x = .ok (some y)) :
    firstResult f (x :: xs) = .ok (some y) := by
  rw [firstResult, h]

theorem firstResult_cons_map {x : α} {r : Except ε β} (h : f x = r.map some) :
    firstResult f (x :: xs) = r.map some := by
  rw [firstResult, h]
  cases r <;> rfl

end FirstResult

/-! ## Constants -/

theorem build_literal {value : Literal} (hvalue : value.WellFormed) :
    build settings value.text = (Literal.read value.text).map fun v => some (.literal v) := by
  have hnone : ∀ x ∈ Split.candidates settings.priorities value.text,
      ofSplit settings.lenient (build settings) value.text x = .ok none := by
    intro x hx
    simp only [Split.candidates, List.mem_flatMap, List.mem_map] at hx
    obtain ⟨p, -, ⟨left, right⟩, hsides, rfl⟩ := hx
    obtain ⟨rfl, rfl⟩ := Split.eq_of_mem_sides_literal hvalue hsides
    -- the minus sign of a number has nothing before it
    rw [ofSplit]
    split
    · rfl
    · rfl
  have hunwrap := unwrap_of_head?_ne (Literal.WellFormed.head?_text_ne hvalue)
  rw [build_eq_ofParts hvalue.hasEnds hunwrap, ofParts, firstResult_eq_none hnone]
  cases Literal.read value.text <;> rfl

/-! ## Selectors -/

variable (hsettings : settings.priorities = Priority.default)

include hsettings

/-- A text that starts with an anchor is cut as a whole if no operator is found in it: its own anchor
comes first. -/
theorem build_anchor {anchor : Anchor} {rest : List Char} (hends : HasEnds (anchor.symbol :: rest))
    (hsilent : ∀ q : Operator, Split.Silent (.operator q) (anchor.symbol :: rest)) :
    build settings (anchor.symbol :: rest) =
      (ofSelector settings.lenient (build settings) anchor (anchor.symbol :: rest)).map some := by
  have hsplit (left right : List Char) (hleft : isBlank left = true) :
      ofSplit settings.lenient (build settings) (anchor.symbol :: rest)
        (.selector anchor, left, right) =
          (ofSelector settings.lenient (build settings) anchor (anchor.symbol :: rest)).map some := by
    rw [ofSplit, if_pos hleft]
  have hunwrap : unwrap (anchor.symbol :: rest) = none := by
    refine unwrap_of_head?_ne fun hhead => ?_
    cases anchor <;> exact absurd (Option.some.inj hhead) (by decide)
  have hcandidates : ∃ front back, Split.candidates settings.priorities (anchor.symbol :: rest) =
      front ++ (.selector anchor, [], rest) :: back ∧ ∀ x ∈ front,
        ofSplit settings.lenient (build settings) (anchor.symbol :: rest) x = .ok none := by
    have hsides := Split.sides_anchor anchor rest
    rw [hsettings, Split.candidates_default_of_silent hsilent]
    cases anchor with
    | root =>
      rw [Split.candidates, Split.anchors, List.flatMap_cons, hsides]
      exact ⟨[], _, rfl, fun x hx => by cases hx⟩
    | current =>
      rw [Split.candidates, Split.anchors, List.flatMap_cons, List.flatMap_cons, hsides]
      refine ⟨_, _, rfl, fun x hx => ?_⟩
      obtain ⟨⟨left, right⟩, hmem, rfl⟩ := List.mem_map.1 hx
      have happend := Split.append_of_mem_sides hmem
      rw [Split.map_fst_mark] at happend
      -- a document anchor inside the path has the anchor `@` before it
      have hblank : isBlank left = false := by
        cases left with
        | nil => exact absurd (List.cons.inj happend).1 (by decide)
        | cons c left =>
          rw [(List.cons.inj happend).1]
          rfl
      rw [ofSplit, hblank]
      rfl
  obtain ⟨front, back, hcandidates, hfront⟩ := hcandidates
  rw [build_eq_ofParts hends hunwrap, ofParts, hcandidates, firstResult_append_of_none hfront,
    firstResult_cons_map (hsplit _ _ rfl)]
  cases ofSelector settings.lenient (build settings) anchor (anchor.symbol :: rest) <;> rfl

/-- A selector is cut as a whole. -/
theorem build_selector {anchor : Anchor} {path : List Segment}
    (h : (selector anchor path).Passes wellFormed) :
    build settings (Segment.pathText path) =
      (ofSelector settings.lenient (build settings) anchor (Segment.pathText path)).map some := by
  obtain ⟨⟨hhead, -⟩, hpath⟩ := passes_selector_iff.1 h
  obtain ⟨rest, -, htext⟩ := exists_selectorText_eq hhead
  have hends := h.hasEnds
  have hsilent : ∀ q : Operator, Split.Silent (.operator q) (Segment.pathText path) :=
    fun q => Split.silent_pathText hpath.segments q
  rw [text_selector] at hends
  rw [htext] at hends hsilent ⊢
  exact build_anchor hsettings hends hsilent

omit hsettings in
/-- What a selector comes from. -/
theorem exists_of_ofSelector {lenient : Bool} {f : ExprBuilder} {anchor : Anchor} {cs : List Char}
    {expr : Expr} (h : ofSelector lenient f anchor cs = .ok expr) :
    ∃ cut path, Words.ofSelector cs = .ok cut ∧ Query.ofWords lenient f cut.words = .ok path ∧
      expr = .selector anchor path := by
  obtain ⟨cut, hcut, h⟩ := bind_eq_ok.1 h
  split at h
  · obtain ⟨path, hpath, he⟩ := bind_eq_ok.1 h
    cases he
    exact ⟨cut, path, hcut, hpath, rfl⟩
  · split at h <;> cases h

omit hsettings in
/-- A selector that takes up the whole text is its words. -/
theorem ofSelector_of_cut {lenient : Bool} {f : ExprBuilder} {anchor : Anchor} {cs : List Char}
    {words : List String} {path : List Segment} (h : Words.ofSelector cs = .ok ⟨words, ""⟩)
    (hpath : Query.ofWords lenient f words = .ok path) :
    ofSelector lenient f anchor cs = .ok (.selector anchor path) := by
  have hrest : trim "".toList = [] := rfl
  rw [ofSelector, h]
  refine bind_eq_ok.2 ⟨_, rfl, ?_⟩
  simp only [hrest, hpath]
  rfl

/-! ## Operations -/

omit hsettings in
/-- Where an operation is built, its operator was found first: the anchors behind it give
selectors, and what cannot be split gives a constant. -/
theorem ofSplit_of_ofParts {lenient : Bool} {f : ExprBuilder} {cs : List Char} {expr : Expr}
    {x : Priority × List Char × List Char}
    (hcandidates : Split.candidates settings.priorities cs = x :: Split.candidates Split.anchors cs)
    (hlenient : settings.lenient = lenient) (hselector : ∀ anchor path, expr ≠ .selector anchor path)
    (hliteral : ∀ value, expr ≠ .literal value) (h : ofParts settings f cs = .ok (some expr)) :
    ofSplit lenient f cs x = .ok (some expr) := by
  rw [ofParts, hcandidates, hlenient] at h
  obtain ⟨result, hresult, h⟩ := bind_eq_ok.1 h
  cases result with
  | none =>
    obtain ⟨value, -, he⟩ := bind_eq_ok.1 h
    cases he
    exact absurd rfl (hliteral value)
  | some result =>
    cases h
    obtain ⟨y, hy, hsplit⟩ := exists_of_firstResult hresult
    rcases List.mem_cons.1 hy with rfl | hy
    · exact hsplit
    · obtain ⟨⟨p, left, right⟩, rfl⟩ : ∃ z, z = y := ⟨y, rfl⟩
      obtain ⟨anchor, hanchor⟩ := Split.exists_of_mem_candidates_anchors hy
      cases hanchor
      rw [ofSplit] at hsplit
      split at hsplit
      · obtain ⟨expr', hexpr', he⟩ := map_eq_ok.1 hsplit
        cases he
        obtain ⟨-, path, -, -, rfl⟩ := exists_of_ofSelector hexpr'
        exact absurd rfl (hselector anchor path)
      · cases hsplit

theorem candidates_unary {operand : Expr} (h : operand.Passes wellFormed) :
    Split.candidates settings.priorities (unary .not operand).text =
      (.operator .not, [], operand.operandText) ::
        Split.candidates Split.anchors (unary .not operand).text := by
  obtain ⟨c, hhead, hc⟩ := (hasEnds_operandText h.hasEnds).head
  obtain ⟨rest, hrest⟩ := List.head?_eq_some_iff.1 hhead
  have hne : c ≠ '=' := by
    rintro rfl
    exact absurd hc (by decide)
  have hsilent : ∀ q : Operator, Split.Silent (.operator q) (c :: rest) := by
    intro q
    rw [← hrest]
    exact Split.silent_operandText h q
  have htext : (unary .not operand).text = '!' :: c :: rest := by
    rw [text_unary, hrest]
    rfl
  rw [hsettings, htext, hrest]
  exact Split.candidates_default_of_sides fun q => Split.sides_unary hne hsilent q

theorem build_unary {operand again : Expr} (h : (unary .not operand).Passes wellFormed)
    (hoperand : operand.Passes wellFormed) (hbuild : build settings operand.text = .ok (some again)) :
    build settings (unary .not operand).text = .ok (some (.unary .not again)) := by
  have hblank := (hasEnds_operandText hoperand.hasEnds).isBlank_eq
  have hsplit : ofSplit settings.lenient (build settings) (unary .not operand).text
      (.operator .not, [], operand.operandText) = .ok (some (.unary .not again)) := by
    rw [ofSplit, hblank, build_operandText hoperand, hbuild]
    rfl
  rw [build_text_eq_ofParts h, ofParts, candidates_unary hsettings hoperand,
    firstResult_cons_of_some hsplit]
  rfl

theorem build_of_build_unary {op : Operator} {operand again : Expr}
    (h : (unary .not operand).Passes wellFormed) (hoperand : operand.Passes wellFormed)
    (hbuild : build settings (unary .not operand).text = .ok (some (.unary op again))) :
    build settings operand.text = .ok (some again) := by
  have hblank := (hasEnds_operandText hoperand.hasEnds).isBlank_eq
  rw [build_text_eq_ofParts h] at hbuild
  have hsplit := ofSplit_of_ofParts (candidates_unary hsettings hoperand) rfl
    (fun _ _ e => by cases e) (fun _ e => by cases e) hbuild
  rw [ofSplit, hblank, build_operandText hoperand] at hsplit
  obtain ⟨result, hresult, he⟩ := map_eq_ok.1 hsplit
  cases result with
  | none => cases he
  | some result => cases he; exact hresult

theorem candidates_binary {op : Operator} {left right : Expr} (hleft : left.Passes wellFormed)
    (hright : right.Passes wellFormed) :
    Split.candidates settings.priorities (binary op left right).text =
      (.operator op, left.operandText ++ [' '], ' ' :: right.operandText) ::
        Split.candidates Split.anchors (binary op left right).text := by
  rw [hsettings]
  exact Split.candidates_default_of_sides fun q =>
    Split.sides_binary (hasEnds_operandText hleft.hasEnds) (Split.silent_operandText hleft)
      (Split.silent_operandText hright) op q

omit hsettings in
/-- How the builder treats the only place where a binary operation can be split. -/
theorem ofSplit_binary {op : Operator} {left right : Expr} (hop : op ≠ .not)
    (hleft : left.Passes wellFormed) (hright : right.Passes wellFormed) (cs : List Char) :
    ofSplit settings.lenient (build settings) cs
      (.operator op, left.operandText ++ [' '], ' ' :: right.operandText) =
        match build settings left.text with
        | .ok (some l) =>
          (ofRight (build settings) op (' ' :: right.operandText)).map fun r => r.map (.binary op l)
        | _ => .ok none := by
  have hblankLeft : isBlank (left.operandText ++ [' ']) = false :=
    (hasEnds_operandText hleft.hasEnds).isBlank_append [' ']
  have hblankRight : isBlank (' ' :: right.operandText) = false :=
    (hasEnds_operandText hright.hasEnds).isBlank_eq
  have hunary : op.isUnary = false := decide_eq_false hop
  rw [ofSplit, hblankRight, hunary, hblankLeft, build_operandText_append hleft]
  rfl

theorem build_binary {op : Operator} {left right l r : Expr} (hop : op ≠ .not)
    (h : (binary op left right).Passes wellFormed) (hleft : left.Passes wellFormed)
    (hright : right.Passes wellFormed) (hl : build settings left.text = .ok (some l))
    (hr : ofRight (build settings) op (' ' :: right.operandText) = .ok (some r)) :
    build settings (binary op left right).text = .ok (some (.binary op l r)) := by
  have hsplit := @ofSplit_binary settings op left right hop hleft hright (binary op left right).text
  rw [hl, hr] at hsplit
  rw [build_text_eq_ofParts h, ofParts, candidates_binary hsettings hleft hright,
    firstResult_cons_of_some hsplit]
  rfl

theorem build_of_build_binary {op op' : Operator} {left right l r : Expr} (hop : op ≠ .not)
    (h : (binary op left right).Passes wellFormed) (hleft : left.Passes wellFormed)
    (hright : right.Passes wellFormed)
    (hbuild : build settings (binary op left right).text = .ok (some (.binary op' l r))) :
    build settings left.text = .ok (some l) ∧
      ofRight (build settings) op (' ' :: right.operandText) = .ok (some r) := by
  rw [build_text_eq_ofParts h] at hbuild
  have hsplit := ofSplit_of_ofParts (candidates_binary hsettings hleft hright) rfl
    (fun _ _ e => by cases e) (fun _ e => by cases e) hbuild
  rw [ofSplit_binary hop hleft hright] at hsplit
  split at hsplit
  · next l' hl =>
    obtain ⟨result, hresult, he⟩ := map_eq_ok.1 hsplit
    cases result with
    | none => cases he
    | some result => cases he; exact ⟨hl, hresult⟩
  · cases hsplit

omit hsettings in
/-- The right operand is built like the left one, unless it is a number in parentheses behind a
match. -/
theorem ofRight_text {op : Operator} {right : Expr} (hright : right.Passes wellFormed)
    (hmatch : op = .matchPattern → ∃ value, right = .literal value)
    (hgrouped : op = .matchPattern → right.isGrouped = false) :
    ofRight (build settings) op (' ' :: right.operandText) = build settings right.text := by
  by_cases hop : op = .matchPattern
  · obtain ⟨value, rfl⟩ := hmatch hop
    have htrim : trim (' ' :: (literal value).operandText) = (literal value).operandText := by
      rw [trim_cons_space, (hasEnds_operandText hright.hasEnds).trim_eq]
    have hoperand : (literal value).operandText = value.text := by
      rw [operandText, hgrouped hop]
      rfl
    rw [ofRight, if_pos hop, htrim, hoperand]
    exact (build_literal hright.expr).symm
  · rw [ofRight, if_neg hop, build_cons_operandText hright]

omit hsettings in
/-- Behind a match parentheses are not understood. -/
theorem ofRight_grouped {value : Literal} (hvalue : (literal value).Passes wellFormed)
    (hgrouped : (literal value).isGrouped = true) :
    ofRight (build settings) .matchPattern (' ' :: (literal value).operandText) =
      .error (.badExpression (String.ofList (literal value).operandText) .unrecognised) := by
  have htrim : trim (' ' :: (literal value).operandText) = (literal value).operandText := by
    rw [trim_cons_space, (hasEnds_operandText hvalue.hasEnds).trim_eq]
  have hoperand : (literal value).operandText = '(' :: (value.text ++ [')']) := by
    rw [operandText, hgrouped]
    rfl
  have hquote : isQuote '(' = false := rfl
  have hword : Literal.isWordChar '(' = false := by decide
  rw [ofRight, if_pos rfl, htrim, hoperand, Literal.read_of_head rfl, Literal.readForm]
  simp [hquote, hword, Except.map]

end Expr

end PathQuery
