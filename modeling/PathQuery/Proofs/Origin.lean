import PathQuery.Proofs.Blank
import PathQuery.Proofs.Inspection
import PathQuery.Proofs.Recursion

/-!
# Where the parts of a tree come from

Every part of a tree was built from a text of its own, which is a part of the text of the whole.
An expression in a segment was built from an argument of its word, the segments of a path were read
from its words, and `FromStep` lists the ways in which one step of the builder makes an expression.
What is to be shown of everything that can be built is shown of these.
-/

namespace PathQuery

open Unicode Text Outcome

/-- The segment that an anchor is read as. -/
def Anchor.segment : Anchor → Segment
  | .root => .root
  | .current => .current

/-! ## Segments -/

namespace Segment

variable {build : ExprBuilder} {word : String} {expr : Expr}

theorem build_of_buildExpr {text : List Char} (h : buildExpr build text = .ok expr) :
    build text = .ok (some expr) := by
  obtain ⟨result, hresult, he⟩ := bind_eq_ok.1 h
  cases result with
  | none => cases he
  | some expr' => cases he; exact hresult

/-- What a single argument stands for. -/
theorem exists_of_ofArgument {argument : Option Argument} {s : Segment}
    (h : ofArgument build word argument = .ok s) :
    (∃ name, s = .key name) ∨ s = .wildcard ∨ (∃ n, s = .index n) ∨
      ∃ text expr, argument = some (.expression text) ∧ build text = .ok (some expr) ∧
        s = .script expr := by
  match argument with
  | none => cases h
  | some (.quoted name) => cases h; exact .inl ⟨_, rfl⟩
  | some (.expression text) =>
    obtain ⟨expr, hexpr, rfl⟩ := map_eq_ok.1 h
    exact .inr (.inr (.inr ⟨text, expr, rfl, build_of_buildExpr hexpr, rfl⟩))
  | some (.bare text) =>
    rw [ofArgument] at h
    split at h
    · cases h; exact .inr (.inl rfl)
    · split at h
      · cases h; exact .inr (.inr (.inl ⟨_, rfl⟩))
      · cases h

theorem exists_build_of_memberOfArgument {argument : Option Argument} {member : Member}
    (h : memberOfArgument build word argument = .ok member) (hexpr : member.expr? = some expr) :
    ∃ text, argument = some (.expression text) ∧ build text = .ok (some expr) := by
  match argument with
  | none => cases h
  | some (.quoted name) => cases h; cases hexpr
  | some (.expression text) =>
    obtain ⟨expr', hexpr', rfl⟩ := map_eq_ok.1 h
    cases hexpr
    exact ⟨text, rfl, build_of_buildExpr hexpr'⟩
  | some (.bare text) =>
    rw [memberOfArgument] at h
    split at h
    · cases h; cases hexpr
    · cases h

theorem exists_build_of_boundOfArgument {argument : Option Argument} {bound : Bound}
    (h : boundOfArgument build word argument = .ok (some bound)) (hexpr : bound.expr? = some expr) :
    ∃ text, argument = some (.expression text) ∧ build text = .ok (some expr) := by
  match argument with
  | none => cases h
  | some (.quoted name) => cases h
  | some (.expression text) =>
    obtain ⟨expr', hexpr', he⟩ := map_eq_ok.1 h
    cases he
    cases hexpr
    exact ⟨text, rfl, build_of_buildExpr hexpr'⟩
  | some (.bare text) =>
    rw [boundOfArgument] at h
    split at h
    · cases h; cases hexpr
    · cases h

/-- Several arguments are the members of a union or the ends of a slice. -/
theorem exists_of_ofArguments {arguments : List (Option Argument)} {separators : List Char}
    {s : Segment} (h : ofArguments build word arguments separators = .ok s) :
    ofArgument build word arguments.head?.join = .ok s ∨
    (∃ members, separators ≠ [] ∧ arguments.mapM (memberOfArgument build word) = .ok members ∧
      s = .union members) ∨
    ∃ bounds, arguments.mapM (boundOfArgument build word) = .ok bounds ∧
      s = .range bounds[0]?.join bounds[1]?.join bounds[2]?.join := by
  unfold ofArguments at h
  split at h
  · exact .inl h
  · next hsep =>
    split at h
    · obtain ⟨members, hmembers, rfl⟩ := map_eq_ok.1 h
      exact .inr (.inl ⟨members, fun e => hsep (List.isEmpty_iff.2 e), hmembers, rfl⟩)
    · split at h
      · split at h
        · cases h
        · obtain ⟨bounds, hbounds, he⟩ := bind_eq_ok.1 h
          cases he
          exact .inr (.inr ⟨bounds, hbounds, rfl⟩)
      · cases h

theorem exists_build_of_ofArguments {arguments : List (Option Argument)} {separators : List Char}
    {s : Segment} (h : ofArguments build word arguments separators = .ok s)
    (hexpr : expr ∈ s.exprs) :
    ∃ text, some (.expression text) ∈ arguments ∧ build text = .ok (some expr) := by
  rcases exists_of_ofArguments h with hone | ⟨members, -, hmembers, rfl⟩ | ⟨bounds, hbounds, rfl⟩
  · rcases exists_of_ofArgument hone with ⟨name, rfl⟩ | rfl | ⟨n, rfl⟩ | ⟨text, e, hhead, hbuild, rfl⟩
    · cases hexpr
    · cases hexpr
    · cases hexpr
    · rw [List.mem_singleton.1 hexpr]
      exact ⟨text, List.mem_of_head? (Option.join_eq_some_iff.1 hhead), hbuild⟩
  · obtain ⟨member, hmember, he⟩ := List.mem_filterMap.1 hexpr
    obtain ⟨argument, hmem, hargument⟩ := exists_of_mem_mapM hmembers hmember
    obtain ⟨text, rfl, hbuild⟩ := exists_build_of_memberOfArgument hargument he
    exact ⟨text, hmem, hbuild⟩
  · obtain ⟨slot, hslot, he⟩ := List.mem_filterMap.1 hexpr
    obtain ⟨bound, rfl, he⟩ := Option.bind_eq_some_iff.1 he
    have hbound : some bound ∈ bounds := by
      simp only [List.mem_cons, List.not_mem_nil, or_false] at hslot
      rcases hslot with hslot | hslot | hslot <;>
        exact List.mem_of_getElem? (Option.join_eq_some_iff.1 hslot.symm)
    obtain ⟨argument, hmem, hargument⟩ := exists_of_mem_mapM hbounds hbound
    obtain ⟨text, rfl, hbuild⟩ := exists_build_of_boundOfArgument hargument he
    exact ⟨text, hmem, hbuild⟩

theorem length_of_ofArguments_union {arguments : List (Option Argument)} {separators : List Char}
    {members : List Member} (h : ofArguments build word arguments separators = .ok (.union members)) :
    separators ≠ [] ∧ members.length = arguments.length := by
  rcases exists_of_ofArguments h with hone | ⟨_, hsep, hmembers, he⟩ | ⟨_, -, he⟩
  · rcases exists_of_ofArgument hone with ⟨_, he⟩ | he | ⟨_, he⟩ | ⟨_, _, -, -, he⟩ <;> cases he
  · cases he
    exact ⟨hsep, length_of_mapM hmembers⟩
  · cases he

theorem ofArguments_ne_filter {arguments : List (Option Argument)} {separators : List Char}
    (text : String) : ofArguments build word arguments separators ≠ .ok (.filter text) := by
  intro h
  rcases exists_of_ofArguments h with hone | ⟨_, -, -, he⟩ | ⟨_, -, he⟩
  · rcases exists_of_ofArgument hone with ⟨_, he⟩ | he | ⟨_, he⟩ | ⟨_, _, -, -, he⟩ <;> cases he
  · cases he
  · cases he

/-- A filter is read as its text, whatever the builder makes of that. -/
theorem exists_of_ofFilter {clause : List Char} {s : Segment} (h : ofFilter word clause = .ok s) :
    ∃ text, clause = parenthesised text ∧ Closed .parentheses text ∧ isBlank text = false ∧
      s = .filter (String.ofList text) := by
  unfold ofFilter at h
  split at h
  · next rest =>
    split at h
    · cases h
    · next text after htake =>
      split at h
      · cases h
      · next hafter =>
        split at h
        · cases h
        · next hblank =>
          cases h
          have hnil : after = [] := by simpa using hafter
          have hrest := takeParenthesis_append htake
          rw [hnil] at hrest
          refine ⟨text, ?_, ?_, by simpa using hblank, rfl⟩
          · rw [parenthesised, hrest]
          · exact @run_of_takeParenthesis 0 none _ _ _ htake
  · cases h

/-- A bracket holds a filter or arguments between separators. -/
theorem exists_of_ofBracket {lenient : Bool} {rest : List Char} {s : Segment}
    (h : ofBracket lenient build rest = .ok s) :
    (∃ text, rest = '?' :: (parenthesised text ++ [']']) ∧ Closed .parentheses text ∧
      isBlank text = false ∧ s = .filter (String.ofList text)) ∨
    ∃ inner arguments separators, rest = inner ++ [']'] ∧
      Argument.split lenient (String.ofList ('[' :: rest)) none false inner =
        .ok (arguments, separators) ∧
      ofArguments build (String.ofList ('[' :: rest)) arguments separators = .ok s := by
  unfold ofBracket at h
  split at h
  · next hlast =>
    obtain ⟨inner, rfl⟩ := List.getLast?_eq_some_iff.1 hlast
    rw [List.dropLast_concat] at h
    split at h
    · next clause =>
      obtain ⟨text, rfl, hclosed, hblank, rfl⟩ := exists_of_ofFilter h
      exact .inl ⟨text, rfl, hclosed, hblank, rfl⟩
    · obtain ⟨⟨arguments, separators⟩, hsplit, h⟩ := bind_eq_ok.1 h
      exact .inr ⟨inner, arguments, separators, rfl, hsplit, h⟩
  · cases h

/-- A word is a bracket, or what it is read as holds neither an expression nor a filter. -/
theorem exists_of_ofWord {lenient : Bool} {word : List Char} {s : Segment}
    (h : ofWord lenient build word = .ok s) :
    (∃ rest, word = '[' :: rest ∧ ofBracket lenient build rest = .ok s) ∨
      s = .root ∨ s = .current ∨ s = .wildcard ∨ s = .descent ∨ s = .length ∨
        s = .key (String.ofList word) := by
  unfold ofWord at h
  split at h
  · cases h
  · cases h; simp
  · cases h; simp
  · cases h; simp
  · cases h; simp
  · next rest => exact .inl ⟨rest, rfl, h⟩
  · split at h
    · cases h; simp
    · split at h
      · cases h
      · cases h; simp

/-- An expression in a segment was built from a part of its word. -/
theorem exists_build_of_ofWord {lenient : Bool} {word : List Char} {s : Segment}
    (h : ofWord lenient build word = .ok s) (hexpr : expr ∈ s.exprs) :
    ∃ text, IsPart text word ∧ build text = .ok (some expr) := by
  rcases exists_of_ofWord h with ⟨rest, rfl, hbracket⟩ | rfl | rfl | rfl | rfl | rfl | rfl
  · rcases exists_of_ofBracket hbracket with
      ⟨text, rfl, -, -, rfl⟩ | ⟨inner, arguments, separators, rfl, hsplit, hs⟩
    · cases hexpr
    · obtain ⟨text, htext, hbuild⟩ := exists_build_of_ofArguments hs hexpr
      refine ⟨text, ?_, hbuild⟩
      rcases Argument.isPart_of_mem_split hsplit htext with he | hpart
      · cases he
      · exact (hpart.trans_piece ⟨[], [']'], rfl⟩).cons '['
  all_goals cases hexpr

/-- The text of a filter is a part of its word. -/
theorem isPart_of_ofWord_filter {lenient : Bool} {word : List Char} {text : String}
    (h : ofWord lenient build word = .ok (.filter text)) : IsPart text.toList word := by
  rcases exists_of_ofWord h with ⟨rest, rfl, hbracket⟩ | h | h | h | h | h | h
  · rcases exists_of_ofBracket hbracket with ⟨part, rfl, -, -, he⟩ | ⟨_, _, _, -, -, hs⟩
    · cases he
      rw [String.toList_ofList]
      exact .of_append ['[', '?', '('] [')', ']'] (by simp [parenthesised])
        (.inl (List.cons_ne_nil _ _))
    · exact absurd hs (ofArguments_ne_filter text)
  all_goals cases h

theorem ofWord_anchor {lenient : Bool} (anchor : Anchor) :
    ofWord lenient build [anchor.symbol] = .ok anchor.segment := by
  cases anchor <;> rfl

end Segment

/-! ## Paths -/

namespace Words

theorem isSpace_of_isOperatorChar {c : Char} (h : isOperatorChar c = true) : isSpace c = false := by
  simp only [isOperatorChar, List.mem_cons, List.not_mem_nil, or_false, decide_eq_true_eq] at h
  rcases h with rfl | rfl | rfl | rfl | rfl | rfl | rfl | rfl | rfl <;> decide

theorem IsWord.isBracketed {word : List Char} (h : IsWord word) (hhead : word.head? = some '[') :
    IsBracketed word := by
  cases h with
  | descent => cases hhead
  | wildcard => cases hhead
  | name _ hname =>
    obtain ⟨rest, rfl⟩ := List.head?_eq_some_iff.1 hhead
    exact absurd (hname '[' List.mem_cons_self) (by decide)
  | bracketed h => exact h

/-- A path that goes on after its anchor and is followed by nothing has a word there. -/
theorem IsCut.parts_ne_nil {anchor c : Char} {rest : List Char} {cut : Words}
    {parts : List (List Char × List Char)} {dot : List Char}
    (h : IsCut anchor (anchor :: c :: rest) cut parts dot) (hc : c = '.' ∨ c = '[')
    (hblank : isBlank cut.rest.toList = true) : parts ≠ [] := by
  intro hparts
  have htext := h.text
  rw [hparts, List.flatMap_nil, List.nil_append, List.cons.injEq] at htext
  have hspace : ∀ x ∈ cut.rest.toList, isSpace x = true := List.all_eq_true.1 hblank
  rcases h.dot with hdot | ⟨-, x, tail, hrest, hx⟩
  · rw [hdot, List.nil_append] at htext
    have hmem := hspace c (by rw [← htext.2]; exact List.mem_cons_self)
    rcases hc with rfl | rfl <;> exact absurd hmem (by decide)
  · have hmem := hspace x (by rw [hrest]; exact List.mem_cons_self)
    rw [isSpace_of_isOperatorChar hx] at hmem
    cases hmem

end Words

/-- The query of a path starts with its anchor and has a segment for each word. -/
theorem Query.exists_word_of_ofWords {build : ExprBuilder} {lenient : Bool} {anchor : Anchor}
    {text : List Char} {cut : Words} {parts : List (List Char × List Char)} {dot : List Char}
    (hcut : Words.IsCut anchor.symbol text cut parts dot) {query : Query}
    (h : ofWords lenient build cut.words = .ok query) :
    ∃ rest, query = anchor.segment :: rest ∧ rest.length = parts.length ∧
      ∀ s ∈ rest, ∃ word, Words.IsWord word ∧ IsPart word text ∧
        Segment.ofWord lenient build word = .ok s := by
  rw [ofWords, hcut.words, List.map_cons, mapM_cons_eq_ok] at h
  obtain ⟨first, rest, hfirst, hrest, rfl⟩ := h
  rw [String.toList_ofList, Segment.ofWord_anchor] at hfirst
  cases hfirst
  refine ⟨rest, rfl, ?_, fun s hs => ?_⟩
  · simpa using length_of_mapM hrest
  · obtain ⟨word, hword, hs⟩ := exists_of_mem_mapM hrest hs
    simp only [List.map_map, List.mem_map, Function.comp_apply] at hword
    obtain ⟨part, hpart, rfl⟩ := hword
    rw [String.toList_ofList] at hs
    exact ⟨part.2, hcut.isWord part hpart, hcut.isPart_of_mem hpart, hs⟩

/-! ## Expressions -/

namespace Expr

/-- How one step makes an expression from a text. Whatever it asks the builder for is a part of the
text. -/
inductive FromStep (settings : Settings) (build : ExprBuilder) (cs : List Char) : Expr → Prop
  | inner {text : List Char} {expr : Expr} : IsPart text cs →
      build text = .ok (some expr) → FromStep settings build cs expr
  | literal {text : List Char} {value : Literal} : Literal.read text = .ok value →
      FromStep settings build cs (.literal value)
  | selector {anchor : Anchor} {rest : Query} : rest ≠ [] →
      (∀ s ∈ rest, ∃ word, Words.IsWord word ∧ IsPart word cs ∧
        Segment.ofWord settings.lenient build word = .ok s) →
      FromStep settings build cs (.selector anchor (anchor.segment :: rest))
  | unary {text : List Char} {operand : Expr} : IsPart text cs →
      build text = .ok (some operand) → FromStep settings build cs (.unary .not operand)
  | binary {op : Operator} {left right : Expr} {leftText rightText : List Char} : op ≠ .not →
      op ≠ .matchPattern → IsPart leftText cs → build leftText = .ok (some left) →
      IsPart rightText cs → build rightText = .ok (some right) →
      FromStep settings build cs (.binary op left right)
  | pattern {left : Expr} {value : Literal} {leftText rightText : List Char} :
      IsPart leftText cs → build leftText = .ok (some left) →
      Literal.read rightText = .ok value →
      FromStep settings build cs (.binary .matchPattern left (.literal value))

/-- How an expression is made from a text that is not in parentheses, and how the text is made of
its operands and its operator. -/
inductive FromParts (settings : Settings) (build : ExprBuilder) (cs : List Char) : Expr → Prop
  | literal {value : Literal} : Literal.read cs = .ok value →
      FromParts settings build cs (.literal value)
  | selector {anchor : Anchor} {left right : List Char} {expr : Expr} : isBlank left = true →
      left ++ anchor.symbol :: right = cs →
      ofSelector settings.lenient build anchor cs = .ok expr → FromParts settings build cs expr
  | unary {op : Operator} {operand : Expr} {left right : List Char} : op = .not →
      isBlank left = true → left ++ op.symbol ++ right = cs → build right = .ok (some operand) →
      FromParts settings build cs (.unary op operand)
  | binary {op : Operator} {left right : Expr} {leftText rightText : List Char} : op ≠ .not →
      op ≠ .matchPattern → leftText ++ op.symbol ++ rightText = cs →
      build leftText = .ok (some left) → build rightText = .ok (some right) →
      FromParts settings build cs (.binary op left right)
  | pattern {left : Expr} {value : Literal} {leftText rightText : List Char} :
      leftText ++ Operator.matchPattern.symbol ++ rightText = cs →
      build leftText = .ok (some left) → Literal.read (trim rightText) = .ok value →
      FromParts settings build cs (.binary .matchPattern left (.literal value))

section Step

variable {settings : Settings} {build : ExprBuilder}

theorem fromStep_of_ofSelector {anchor : Anchor} {rest : List Char} {expr : Expr}
    (h : ofSelector settings.lenient build anchor (anchor.symbol :: rest) = .ok expr) :
    FromStep settings build (anchor.symbol :: rest) expr := by
  obtain ⟨cut, hcut, h⟩ := bind_eq_ok.1 h
  obtain ⟨a, c, rest', hcs, -, hc, hanchor⟩ := Words.eq_cons_of_ofSelector hcut
  cases hcs
  obtain ⟨parts, dot, hparts⟩ := Words.exists_isCut_of_ofAnchor hanchor
  split at h
  · next hrest =>
    obtain ⟨path, hpath, he⟩ := bind_eq_ok.1 h
    cases he
    obtain ⟨segments, rfl, hlength, hwords⟩ := Query.exists_word_of_ofWords hparts hpath
    refine .selector ?_ hwords
    have hne := List.length_pos_iff.2 (hparts.parts_ne_nil hc (trim_eq_nil_iff.1 hrest))
    exact List.length_pos_iff.1 (hlength ▸ hne)
  · split at h
    · cases h
    · cases h

theorem fromParts_of_ofSplit {cs left right : List Char} {p : Priority} {expr : Expr}
    (hcs : left ++ p.symbol ++ right = cs)
    (h : ofSplit settings.lenient build cs (p, left, right) = .ok (some expr)) :
    FromParts settings build cs expr := by
  cases p with
  | selector anchor =>
    rw [ofSplit] at h
    split at h
    · next hblank =>
      obtain ⟨expr', hexpr, he⟩ := map_eq_ok.1 h
      cases he
      rw [List.append_assoc] at hcs
      exact .selector hblank hcs hexpr
    · cases h
  | operator op =>
    rw [ofSplit] at h
    split at h
    · cases h
    split at h
    · next hunary =>
      split at h
      · next hblank =>
        obtain ⟨operand, hoperand, he⟩ := map_eq_ok.1 h
        cases operand with
        | none => cases he
        | some operand =>
          cases he
          exact .unary (of_decide_eq_true hunary) hblank hcs hoperand
      · cases h
    · next hunary =>
      split at h
      · cases h
      split at h
      · next left' hbuild =>
        obtain ⟨result, hresult, he⟩ := map_eq_ok.1 h
        cases result with
        | none => cases he
        | some right' =>
          cases he
          unfold ofRight at hresult
          split at hresult
          · next hop =>
            obtain ⟨value, hread, he⟩ := map_eq_ok.1 hresult
            cases he
            subst hop
            exact .pattern hcs hbuild hread
          · next hop =>
            exact .binary (fun hnot => hunary (decide_eq_true hnot)) hop hcs hbuild hresult
      · cases h

theorem exists_of_firstResult {α β ε : Type} {f : α → Except ε (Option β)} {xs : List α} {y : β}
    (h : firstResult f xs = .ok (some y)) : ∃ x ∈ xs, f x = .ok (some y) := by
  induction xs with
  | nil => cases h
  | cons x xs ih =>
    rw [firstResult] at h
    split at h
    · obtain ⟨z, hz, hfz⟩ := ih h
      exact ⟨z, List.mem_cons_of_mem _ hz, hfz⟩
    · exact ⟨x, List.mem_cons_self, h⟩

theorem fromParts_of_ofParts {cs : List Char} {expr : Expr}
    (h : ofParts settings build cs = .ok (some expr)) : FromParts settings build cs expr := by
  obtain ⟨result, hresult, h⟩ := bind_eq_ok.1 h
  cases result with
  | some expr' =>
    cases h
    obtain ⟨⟨p, left, right⟩, hmem, hsplit⟩ := exists_of_firstResult hresult
    exact fromParts_of_ofSplit (Split.append_of_mem_candidates hmem) hsplit
  | none =>
    obtain ⟨value, hvalue, he⟩ := bind_eq_ok.1 h
    cases he
    exact .literal hvalue

theorem fromStep_of_ofParts {c : Char} {cs : List Char} {expr : Expr} (hc : isSpace c = false)
    (h : ofParts settings build (c :: cs) = .ok (some expr)) :
    FromStep settings build (c :: cs) expr := by
  cases fromParts_of_ofParts h with
  | literal hread => exact .literal hread
  | selector hblank hcs hexpr =>
    -- nothing stands before the anchor, because the text is trimmed
    rw [eq_nil_of_isBlank hblank hc hcs] at hcs
    cases hcs
    exact fromStep_of_ofSelector hexpr
  | unary hop _ hcs hoperand => exact hop ▸ .unary (isPart_of_append_symbol hcs).2 hoperand
  | binary hnot hmatch hcs hleft hright =>
    obtain ⟨hpartLeft, hpartRight⟩ := isPart_of_append_symbol hcs
    exact .binary hnot hmatch hpartLeft hleft hpartRight hright
  | pattern hcs hleft hread => exact .pattern (isPart_of_append_symbol hcs).1 hleft hread

/-- The parts of a piece of a text are parts of the text. -/
theorem FromStep.of_piece {cs ds : List Char} (hpiece : cs <:+: ds) {expr : Expr}
    (h : FromStep settings build cs expr) : FromStep settings build ds expr := by
  cases h with
  | inner hpart hbuild => exact .inner (hpart.trans_piece hpiece) hbuild
  | literal hread => exact .literal hread
  | selector hne hwords =>
    refine .selector hne fun s hs => ?_
    obtain ⟨word, hword, hpart, hs⟩ := hwords s hs
    exact ⟨word, hword, hpart.trans_piece hpiece, hs⟩
  | unary hpart hbuild => exact .unary (hpart.trans_piece hpiece) hbuild
  | binary hnot hmatch hleft hl hright hr =>
    exact .binary hnot hmatch (hleft.trans_piece hpiece) hl (hright.trans_piece hpiece) hr
  | pattern hleft hl hread => exact .pattern (hleft.trans_piece hpiece) hl hread

theorem fromStep_of_step {cs : List Char} {expr : Expr}
    (h : step settings build cs = .ok (some expr)) : FromStep settings build cs expr := by
  have htrim := infix_trim cs
  unfold step at h
  split at h
  · cases h
  · next c rest hcs =>
    rw [hcs] at htrim
    split at h
    · next inner hinner => exact .inner ((isPart_of_unwrap hinner).trans_piece htrim) h
    · exact (fromStep_of_ofParts (isSpace_of_trim_eq_cons hcs) h).of_piece htrim

/-- What one step hands on from the parts of a text holds of everything that is built. -/
theorem build_induction {P : List Char → Expr → Prop}
    (hstep : ∀ {cs : List Char} {expr : Expr},
      (∀ {text : List Char} {expr : Expr}, IsPart text cs →
        Expr.build settings text = .ok (some expr) → P text expr) →
      FromStep settings (Expr.build settings) cs expr → P cs expr)
    {cs : List Char} {expr : Expr} (h : Expr.build settings cs = .ok (some expr)) : P cs expr := by
  induction hn : cs.length using Nat.strong_induction_on generalizing cs expr with
  | _ n ih =>
    rw [build_eq] at h
    exact hstep (fun hpart hbuild => ih _ (hn ▸ hpart.length_lt) hbuild rfl) (fromStep_of_step h)

end Step

end Expr

/-- A query that compiles starts at the document, and what follows was read from words of the path. -/
theorem Query.exists_word_of_compile {settings : Settings} {path : String} {query : Query}
    (h : compile settings path = .ok query) :
    ∃ rest, query = .root :: rest ∧ ∀ s ∈ rest, ∃ word, Words.IsWord word ∧
      IsPart word path.toList ∧
      Segment.ofWord settings.lenient (Expr.build settings) word = .ok s := by
  obtain ⟨cut, hcut, h⟩ := bind_eq_ok.1 h
  obtain ⟨rest, hpath, hanchor⟩ := Words.eq_cons_of_ofQuery hcut
  obtain ⟨parts, dot, hparts⟩ := Words.exists_isCut_of_ofAnchor hanchor
  split at h
  · have hcut : Words.IsCut Anchor.root.symbol path.toList cut parts dot := by
      rw [hpath]
      exact hparts
    obtain ⟨segments, rfl, -, hwords⟩ := exists_word_of_ofWords hcut h
    exact ⟨segments, rfl, hwords⟩
  · cases h

end PathQuery
