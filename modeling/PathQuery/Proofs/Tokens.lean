import PathQuery.Proofs.LeafText

/-!
# The tokens of an expression

The text of an expression that is built is made of constants and selectors, operators and
parentheses, with white space between them. Without its parentheses it is the tree that is built,
written in order. Two ways to take one text apart into such tokens that agree on the tree agree
altogether: the tree says where an operator stands and where an operand, and an operand ends where
it cannot go on.
-/

namespace PathQuery.Expr

open Unicode Text Outcome

/-! ## The tree in order -/

/-- An operand or an operator of an expression. -/
inductive Item where
  | operand (tree : Expr)
  | operator (op : Operator)

/-- Whether one of two items that follow one another is an operator. -/
def Item.Apart : Item → Item → Prop
  | .operand _, .operand _ => False
  | _, _ => True

theorem Item.apart_operator_left (op : Operator) (item : Item) : Apart (.operator op) item := by
  cases item <;> trivial

theorem Item.apart_operator_right (item : Item) (op : Operator) : Apart item (.operator op) := by
  cases item <;> trivial

/-- The operands and operators of an expression, in the order in which they are written. -/
def items : Expr → List Item
  | .literal value => [.operand (.literal value)]
  | .selector anchor path => [.operand (.selector anchor path)]
  | .unary op operand => .operator op :: operand.items
  | .binary op left right => left.items ++ .operator op :: right.items

theorem isChain_cons_operator {items : List Item} (h : items.IsChain Item.Apart) (op : Operator) :
    (Item.operator op :: items).IsChain Item.Apart :=
  List.isChain_cons.2 ⟨fun item _ => Item.apart_operator_left op item, h⟩

/-- Between two operands there is an operator. -/
theorem isChain_items : ∀ expr : Expr, expr.items.IsChain Item.Apart
  | .literal _ => List.isChain_singleton _
  | .selector _ _ => List.isChain_singleton _
  | .unary op operand => isChain_cons_operator (isChain_items operand) op
  | .binary op left right => by
    refine List.isChain_append.2 ⟨isChain_items left,
      isChain_cons_operator (isChain_items right) op, fun item _ other hother => ?_⟩
    cases hother
    exact Item.apart_operator_right item op

/-! ## Tokens -/

/-- What an operand is read from. -/
inductive IsLeaf (settings : Settings) (text : List Char) : Expr → Prop
  | literal {value : Literal} : Literal.read text = .ok value → IsLeaf settings text (.literal value)
  | selector {anchor : Anchor} {expr : Expr} :
      ofSelector settings.lenient (build settings) anchor text = .ok expr →
      IsLeaf settings text expr

/-- A constant or a selector, with the text that it is read from. -/
structure Leaf (settings : Settings) where
  text : List Char
  tree : Expr
  trim_eq : trim text = text
  ne_nil : text ≠ []
  isLeaf : IsLeaf settings text tree

/-- A part of the text of an expression. -/
inductive Token (settings : Settings) where
  | opening
  | closing
  | operand (leaf : Leaf settings)
  | operator (op : Operator)

variable {settings : Settings}

namespace Token

/-- How a token is written. -/
def text : Token settings → List Char
  | opening => ['(']
  | closing => [')']
  | operand leaf => leaf.text
  | operator op => op.symbol

/-- What a token contributes to the tree. -/
def item? : Token settings → Option Item
  | operand leaf => some (.operand leaf.tree)
  | operator op => some (.operator op)
  | _ => none

/-- How many parentheses are open behind a token; `none` if it closes one that is not open. -/
def level? (depth : Nat) : Token settings → Option Nat
  | opening => some (depth + 1)
  | closing => match depth with
    | 0 => none
    | depth + 1 => some depth
  | _ => some depth

end Token

/-- Tokens that spell a text, with white space between them and around them. -/
inductive Spells : List (Token settings) → List Char → Prop
  | blank {cs : List Char} : isBlank cs = true → Spells [] cs
  | token {front rest : List Char} {token : Token settings} {tokens : List (Token settings)} :
      isBlank front = true → Spells tokens rest → Spells (token :: tokens) (front ++ (token.text ++ rest))

/-- The operands and operators among tokens. -/
def contents (tokens : List (Token settings)) : List Item :=
  tokens.filterMap Token.item?

theorem contents_cons (token : Token settings) (tokens : List (Token settings)) :
    contents (token :: tokens) = token.item?.toList ++ contents tokens := by
  cases token <;> rfl

theorem contents_append (tokens tokens' : List (Token settings)) :
    contents (tokens ++ tokens') = contents tokens ++ contents tokens' :=
  List.filterMap_append

/-- Whether tokens close what they open. -/
def Nested (tokens : List (Token settings)) : Prop :=
  tokens.foldlM Token.level? 0 = some 0

/-- Tokens that spell a text, nest, and are the tree in order, parentheses apart. -/
structure Writes (tokens : List (Token settings)) (cs : List Char) (expr : Expr) : Prop where
  spells : Spells tokens cs
  nested : Nested tokens
  contents_eq : contents tokens = expr.items

namespace Leaf

/-- An operand starts neither with white space nor with a parenthesis. -/
theorem exists_text_eq_cons (leaf : Leaf settings) :
    ∃ c rest, leaf.text = c :: rest ∧ isSpace c = false ∧ c ≠ '(' ∧ c ≠ ')' := by
  obtain ⟨text, tree, htrim, hne, hleaf⟩ := leaf
  obtain ⟨c, rest, rfl⟩ := List.exists_cons_of_ne_nil hne
  have hspace := isSpace_of_trim_eq_cons htrim
  have hparenthesis : ¬(c = '(' ∨ c = ')') := by
    intro hc
    cases hleaf with
    | literal hread => exact Literal.read_parenthesis_ne_ok hc rest _ hread
    | selector hselector =>
      obtain ⟨symbol, _, _, _, _, hcs, hsymbol, -⟩ := exists_scan_of_ofSelector htrim hselector
      cases hcs
      rcases hc with rfl | rfl <;> exact absurd hsymbol (by decide)
  exact ⟨c, rest, rfl, hspace, not_or.1 hparenthesis⟩

/-- The text of an operand does not go on with what may follow an operand. -/
theorem not_append {leaf leaf' : Leaf settings} {more : List Char} (htree : leaf.tree = leaf'.tree)
    (htext : leaf'.text = leaf.text ++ more) (hmore : FollowsOperand more) : False := by
  have htrim := leaf'.trim_eq
  have hleaf := leaf.isLeaf
  have hleaf' := leaf'.isLeaf
  rw [htree] at hleaf
  rw [htext] at htrim hleaf'
  generalize leaf'.tree = tree at hleaf hleaf'
  cases hleaf with
  | literal hread =>
    cases hleaf' with
    | literal hread' =>
      exact (Literal.isRead_of_read hread).not_append (Literal.isRead_of_read hread') hmore
    | selector hselector =>
      obtain ⟨_, _, -, -, he⟩ := exists_of_ofSelector hselector
      cases he
  | selector hselector =>
    cases hleaf' with
    | literal hread =>
      obtain ⟨_, _, -, -, he⟩ := exists_of_ofSelector hselector
      cases he
    | selector hselector' => exact not_ofSelector_append leaf.trim_eq htrim hmore hselector hselector'

end Leaf

namespace Token

theorem exists_text_eq_cons (token : Token settings) :
    ∃ c rest, token.text = c :: rest ∧ isSpace c = false := by
  cases token with
  | opening => exact ⟨'(', [], rfl, rfl⟩
  | closing => exact ⟨')', [], rfl, rfl⟩
  | operand leaf =>
    obtain ⟨c, rest, htext, hc, -⟩ := leaf.exists_text_eq_cons
    exact ⟨c, rest, htext, hc⟩
  | operator op => cases op <;> exact ⟨_, _, rfl, rfl⟩

/-- Only a parenthesis starts with one. -/
theorem head?_text_eq_iff (token : Token settings) :
    (token.text.head? = some '(' ↔ token = opening) ∧
      (token.text.head? = some ')' ↔ token = closing) := by
  cases token with
  | opening => simp [text]
  | closing => simp [text]
  | operand leaf =>
    obtain ⟨c, rest, htext, -, hopening, hclosing⟩ := leaf.exists_text_eq_cons
    simp [text, htext, hopening, hclosing]
  | operator op => cases op <;> simp [text, Operator.symbol]

theorem followsOperand_of_head?_text {token : Token settings} {c : Char}
    (h : token.text.head? = some c) (hoperand : ∀ leaf, token ≠ operand leaf) :
    followsOperand c = true := by
  cases token with
  | opening | closing => cases h; rfl
  | operand leaf => exact absurd rfl (hoperand leaf)
  | operator op => cases op <;> cases h <;> rfl

end Token

namespace Spells

variable {tokens tokens' : List (Token settings)} {cs ds : List Char}

theorem prepend {front : List Char} (hfront : isBlank front = true) (h : Spells tokens cs) :
    Spells tokens (front ++ cs) := by
  have happend {blank : List Char} (hblank : isBlank blank = true) :
      isBlank (front ++ blank) = true := by
    rw [isBlank] at hfront hblank ⊢
    rw [List.all_append, hfront, hblank, Bool.and_self]
  cases h with
  | blank hblank => exact .blank (happend hblank)
  | token hblank hrest =>
    rw [← List.append_assoc]
    exact .token (happend hblank) hrest

theorem append (h : Spells tokens cs) (h' : Spells tokens' ds) :
    Spells (tokens ++ tokens') (cs ++ ds) := by
  induction h with
  | blank hblank => exact h'.prepend hblank
  | @token front rest token tokens hfront _ ih =>
    rw [List.append_assoc, List.append_assoc]
    exact .token hfront ih

theorem singleton (token : Token settings) : Spells [token] token.text := by
  have hspells : Spells [token] ([] ++ (token.text ++ [])) := .token rfl (.blank rfl)
  rwa [List.append_nil] at hspells

/-- Trimming takes no token away. -/
theorem of_trim (h : Spells tokens (trim cs)) : Spells tokens cs := by
  obtain ⟨front, back, hfront, hback, hcs⟩ := exists_eq_append_trim cs
  have hspells := (h.prepend hfront).append (.blank hback)
  rwa [List.append_nil, ← hcs] at hspells

end Spells

/-! ## Uniqueness -/

theorem Token.isSpace_of_mem_head? (token : Token settings) (rest : List Char) :
    ∀ c ∈ (token.text ++ rest).head?, isSpace c = false := by
  obtain ⟨c, tail, htext, hc⟩ := token.exists_text_eq_cons
  rw [htext]
  intro x hx
  cases hx
  exact hc

/-- What stands behind an operand, up to any place that is not white space, starts like an operator
or a parenthesis. -/
theorem Spells.followsOperand {tokens : List (Token settings)} {more rest : List Char}
    (h : Spells tokens (more ++ rest)) (hmore : isBlank more = false)
    (htokens : ∀ leaf, tokens.head? ≠ some (.operand leaf)) : FollowsOperand more := by
  generalize hcs : more ++ rest = cs at h
  cases h with
  | blank hblank =>
    rw [← hcs, isBlank, List.all_append, ← isBlank, hmore] at hblank
    cases hblank
  | @token front after token tokens hfront _ =>
    have htrim := trimStart_append_of_head? hfront (token.isSpace_of_mem_head? after)
    rw [← hcs] at htrim
    cases hs : trimStart more with
    | nil => rw [trimStart_eq_nil_iff.1 hs] at hmore; cases hmore
    | cons c tail =>
      have hhead : token.text.head? = some c := by
        obtain ⟨d, text, htext, -⟩ := token.exists_text_eq_cons
        rw [trimStart] at htrim hs
        rw [List.dropWhile_append, hs, htext] at htrim
        rw [htext]
        exact congrArg some (List.cons.inj htrim).1.symm
      exact ⟨c, tail, hs, Token.followsOperand_of_head?_text hhead
        fun leaf he => htokens leaf (congrArg some he)⟩

namespace Leaf

variable {leaf leaf' : Leaf settings} {tokens tokens' : List (Token settings)}
  {rest rest' : List Char}

theorem eq_of_prefix {more : List Char} (htree : leaf.tree = leaf'.tree)
    (htext : leaf'.text = leaf.text ++ more) (h : Spells tokens (more ++ rest))
    (htokens : ∀ leaf, tokens.head? ≠ some (.operand leaf)) : leaf = leaf' ∧ more = [] := by
  have htrim := leaf'.trim_eq
  rw [htext] at htrim
  cases hblank : isBlank more with
  | false => exact (not_append htree htext (h.followsOperand hblank htokens)).elim
  | true =>
    obtain rfl := eq_nil_of_trim_append htrim hblank
    rw [List.append_nil] at htext
    cases leaf
    cases leaf'
    cases htree
    cases htext
    exact ⟨rfl, rfl⟩

/-- An operand ends where it cannot go on. -/
theorem eq_of_append (htree : leaf.tree = leaf'.tree)
    (h : leaf.text ++ rest = leaf'.text ++ rest') (hspells : Spells tokens rest)
    (hspells' : Spells tokens' rest') (htokens : ∀ leaf, tokens.head? ≠ some (.operand leaf))
    (htokens' : ∀ leaf, tokens'.head? ≠ some (.operand leaf)) : leaf = leaf' ∧ rest = rest' := by
  rcases List.append_eq_append_iff.1 h with ⟨more, htext, rfl⟩ | ⟨more, htext, rfl⟩
  · obtain ⟨rfl, rfl⟩ := eq_of_prefix htree htext hspells htokens
    exact ⟨rfl, rfl⟩
  · obtain ⟨rfl, rfl⟩ := eq_of_prefix htree.symm htext hspells' htokens'
    exact ⟨rfl, rfl⟩

end Leaf

/-- Behind an operand no other one stands. -/
theorem head?_ne_operand {leaf : Leaf settings} {tokens : List (Token settings)}
    (h : (contents (.operand leaf :: tokens)).IsChain Item.Apart) (leaf' : Leaf settings) :
    tokens.head? ≠ some (.operand leaf') := by
  intro hhead
  obtain ⟨tail, rfl⟩ := List.head?_eq_some_iff.1 hhead
  exact (List.isChain_cons_cons.1 h).1

/-- The first token of a text is known from the text and from what the tokens contribute. -/
theorem Token.eq_of_append {token token' : Token settings} {tokens tokens' : List (Token settings)}
    {rest rest' : List Char} (h : token.text ++ rest = token'.text ++ rest')
    (hspells : Spells tokens rest) (hspells' : Spells tokens' rest')
    (hcontents : contents (token :: tokens) = contents (token' :: tokens'))
    (hchain : (contents (token :: tokens)).IsChain Item.Apart) : token = token' ∧ rest = rest' := by
  have hhead : token.text.head? = token'.text.head? := by
    obtain ⟨c, tail, htext, -⟩ := token.exists_text_eq_cons
    obtain ⟨c', tail', htext', -⟩ := token'.exists_text_eq_cons
    rw [htext, htext'] at h ⊢
    exact congrArg some (List.cons.inj h).1
  cases token with
  | opening =>
    obtain rfl := token'.head?_text_eq_iff.1.1 hhead.symm
    exact ⟨rfl, List.append_cancel_left h⟩
  | closing =>
    obtain rfl := token'.head?_text_eq_iff.2.1 hhead.symm
    exact ⟨rfl, List.append_cancel_left h⟩
  | operand leaf =>
    cases token' with
    | opening => cases (head?_text_eq_iff _).1.1 hhead
    | closing => cases (head?_text_eq_iff _).2.1 hhead
    | operator op => cases (List.cons.inj hcontents).1
    | operand leaf' =>
      have htree : leaf.tree = leaf'.tree := Item.operand.inj (List.cons.inj hcontents).1
      obtain ⟨rfl, rfl⟩ := Leaf.eq_of_append htree h hspells hspells' (head?_ne_operand hchain)
        (head?_ne_operand (hcontents ▸ hchain))
      exact ⟨rfl, rfl⟩
  | operator op =>
    cases token' with
    | opening => cases (head?_text_eq_iff _).1.1 hhead
    | closing => cases (head?_text_eq_iff _).2.1 hhead
    | operand leaf => cases (List.cons.inj hcontents).1
    | operator op' =>
      obtain rfl : op = op' := Item.operator.inj (List.cons.inj hcontents).1
      exact ⟨rfl, List.append_cancel_left h⟩

theorem Spells.eq_nil_of_isBlank {tokens : List (Token settings)} {cs : List Char}
    (h : Spells tokens cs) (hcs : isBlank cs = true) : tokens = [] := by
  cases h with
  | blank => rfl
  | @token front rest token tokens hfront _ =>
    have htrim := trimStart_append_of_head? hfront (token.isSpace_of_mem_head? rest)
    obtain ⟨c, tail, htext, -⟩ := token.exists_text_eq_cons
    rw [trimStart_eq_nil_iff.2 hcs, htext] at htrim
    cases htrim

/-- Tokens that spell one text are the same if their operands and operators are. -/
theorem Spells.unique {tokens tokens' : List (Token settings)} {cs : List Char}
    (h : Spells tokens cs) (h' : Spells tokens' cs) (hcontents : contents tokens = contents tokens')
    (hchain : (contents tokens).IsChain Item.Apart) : tokens = tokens' := by
  induction h generalizing tokens' with
  | blank hblank => exact (h'.eq_nil_of_isBlank hblank).symm
  | @token front rest token tokens hfront hrest ih =>
    generalize hcs : front ++ (token.text ++ rest) = cs at h'
    cases h' with
    | blank hblank => cases (Spells.token hfront hrest).eq_nil_of_isBlank (hcs ▸ hblank)
    | @token front' rest' token' tokens' hfront' hrest' =>
      have htrim := trimStart_append_of_head? hfront (token.isSpace_of_mem_head? rest)
      rw [hcs, trimStart_append_of_head? hfront' (token'.isSpace_of_mem_head? rest')] at htrim
      obtain ⟨rfl, rfl⟩ := Token.eq_of_append htrim.symm hrest hrest' hcontents hchain
      rw [contents_cons] at hcontents hchain
      rw [contents_cons] at hcontents
      rw [ih hrest' (List.append_cancel_left hcontents) (List.isChain_append.1 hchain).2.1]

/-! ## Nesting -/

/-- With more parentheses open around it, a token leaves as many more open behind it. -/
theorem Token.level?_add {token : Token settings} {n m : Nat} (h : token.level? n = some m)
    (k : Nat) : token.level? (n + k) = some (m + k) := by
  cases token with
  | opening =>
    cases h
    rw [level?, Nat.add_right_comm]
  | closing =>
    cases n with
    | zero => cases h
    | succ n =>
      cases h
      rw [Nat.add_right_comm]
      rfl
  | operand | operator => cases h; rfl

theorem foldlM_level?_add {tokens : List (Token settings)} {n m : Nat}
    (h : tokens.foldlM Token.level? n = some m) (k : Nat) :
    tokens.foldlM Token.level? (n + k) = some (m + k) := by
  induction tokens generalizing n with
  | nil => cases h; rfl
  | cons token tokens ih =>
    rw [List.foldlM_cons] at h ⊢
    obtain ⟨l, hl, h⟩ := Option.bind_eq_some_iff.1 h
    exact Option.bind_eq_some_iff.2 ⟨_, Token.level?_add hl k, ih h⟩

namespace Nested

variable {tokens tokens' : List (Token settings)}

theorem nil : Nested ([] : List (Token settings)) := rfl

theorem append (h : Nested tokens) (h' : Nested tokens') : Nested (tokens ++ tokens') := by
  rw [Nested, List.foldlM_append]
  exact Option.bind_eq_some_iff.2 ⟨0, h, h'⟩

theorem cons_operator (h : Nested tokens) (op : Operator) : Nested (.operator op :: tokens) := h

theorem singleton_operand (leaf : Leaf settings) : Nested [.operand leaf] := rfl

theorem group (h : Nested tokens) : Nested (.opening :: (tokens ++ [.closing])) := by
  rw [Nested, List.foldlM_cons]
  refine Option.bind_eq_some_iff.2 ⟨1, rfl, ?_⟩
  rw [List.foldlM_append]
  exact Option.bind_eq_some_iff.2 ⟨1, foldlM_level?_add h 1, rfl⟩

/-- A part from the start of nested tokens does not close a parenthesis in front of it. -/
theorem not_opening {front back : List (Token settings)} (h : Nested (front ++ back)) :
    ¬Nested (.opening :: front) := by
  intro hopening
  rw [Nested, List.foldlM_append] at h
  obtain ⟨k, hk, -⟩ := Option.bind_eq_some_iff.1 h
  rw [Nested, List.foldlM_cons] at hopening
  obtain ⟨l, hl, hopening⟩ := Option.bind_eq_some_iff.1 hopening
  cases hl
  rw [foldlM_level?_add hk 1] at hopening
  cases hopening

end Nested

/-! ## The tokens of what is built -/

/-- An operand alone, or an operator with nested tokens on both sides of it. -/
inductive IsOperation : List (Token settings) → Prop
  | operand (leaf : Leaf settings) : IsOperation [.operand leaf]
  | operator {front back : List (Token settings)} (op : Operator) : Nested front → Nested back →
      IsOperation (front ++ .operator op :: back)

theorem IsOperation.nested {tokens : List (Token settings)} (h : IsOperation tokens) :
    Nested tokens := by
  cases h with
  | operand leaf => exact .singleton_operand leaf
  | operator op hfront hback => exact hfront.append (hback.cons_operator op)

theorem Writes.operation {tokens tokens' : List (Token settings)} {cs ds : List Char}
    {left right : Expr} {op : Operator} (h : Writes tokens cs left) (h' : Writes tokens' ds right) :
    Writes (tokens ++ .operator op :: tokens') (cs ++ op.symbol ++ ds) (.binary op left right) := by
  refine ⟨?_, h.nested.append (h'.nested.cons_operator op), ?_⟩
  · rw [List.append_assoc]
    exact h.spells.append ((Spells.singleton (.operator op)).append h'.spells)
  · rw [contents_append, contents_cons, h.contents_eq, h'.contents_eq]
    rfl

/-- What is not in parentheses as a whole is an operand or an operation. -/
theorem exists_writes_of_fromParts {cs : List Char} {expr : Expr} (htrim : trim cs = cs)
    (hne : cs ≠ [])
    (hbuild : ∀ {text : List Char} {expr : Expr}, IsPart text cs →
      build settings text = .ok (some expr) → ∃ tokens : List (Token settings), Writes tokens text expr)
    (h : FromParts settings (build settings) cs expr) :
    ∃ tokens : List (Token settings), IsOperation tokens ∧ Writes tokens cs expr := by
  have hleaf (hleaf : IsLeaf settings cs expr) (hitems : expr.items = [.operand expr]) :
      ∃ tokens : List (Token settings), IsOperation tokens ∧ Writes tokens cs expr := by
    let leaf : Leaf settings := ⟨cs, expr, htrim, hne, hleaf⟩
    exact ⟨[.operand leaf], .operand leaf, Spells.singleton (.operand leaf),
      .singleton_operand leaf, hitems.symm⟩
  cases h with
  | literal hread => exact hleaf (.literal hread) rfl
  | selector hblank hcs hexpr =>
    obtain ⟨_, _, -, -, rfl⟩ := exists_of_ofSelector hexpr
    exact hleaf (.selector hexpr) rfl
  | @unary op operand left right hop hblank hcs hoperand =>
    obtain ⟨tokens, h⟩ := hbuild (isPart_of_append_symbol hcs).2 hoperand
    refine ⟨[] ++ .operator op :: tokens, .operator op .nil h.nested, ?_, h.nested.cons_operator op, ?_⟩
    · rw [← hcs, List.append_assoc]
      exact (Spells.blank hblank).append ((Spells.singleton (.operator op)).append h.spells)
    · rw [List.nil_append, contents_cons, h.contents_eq]
      rfl
  | binary hnot hmatch hcs hleft hright =>
    obtain ⟨hpartLeft, hpartRight⟩ := isPart_of_append_symbol hcs
    obtain ⟨tokens, h⟩ := hbuild hpartLeft hleft
    obtain ⟨tokens', h'⟩ := hbuild hpartRight hright
    exact ⟨_, .operator _ h.nested h'.nested, hcs ▸ h.operation h'⟩
  | @pattern left value leftText rightText hcs hleft hread =>
    obtain ⟨tokens, h⟩ := hbuild (isPart_of_append_symbol hcs).1 hleft
    have hright : trim rightText ≠ [] := by
      intro hnil
      rw [hnil] at hread
      cases hread
    let leaf : Leaf settings :=
      ⟨trim rightText, .literal value, trim_trim rightText, hright, .literal hread⟩
    have h' : Writes [.operand leaf] rightText (.literal value) :=
      ⟨.of_trim (Spells.singleton (.operand leaf)), .singleton_operand leaf, rfl⟩
    exact ⟨_, .operator _ h.nested h'.nested, hcs ▸ h.operation h'⟩

/-- Parentheses around the whole of a text are tokens of their own. -/
theorem Writes.group {tokens : List (Token settings)} {cs : List Char} {expr : Expr}
    (h : Writes tokens cs expr) :
    Writes (.opening :: (tokens ++ [.closing])) (parenthesised cs) expr := by
  refine ⟨?_, h.nested.group, ?_⟩
  · exact (Spells.singleton .opening).append (h.spells.append (Spells.singleton .closing))
  · rw [contents_cons, contents_append, h.contents_eq]
    exact List.append_nil _

/-- Whatever is built can be taken apart into tokens. -/
theorem exists_writes_of_build {cs : List Char} {expr : Expr}
    (h : build settings cs = .ok (some expr)) :
    ∃ tokens : List (Token settings), Writes tokens cs expr := by
  induction hn : cs.length using Nat.strong_induction_on generalizing cs expr with
  | _ n ih =>
    have hle := length_trim_le cs
    have hpart {text : List Char} {expr : Expr} (hpart : IsPart text (trim cs))
        (hbuild : build settings text = .ok (some expr)) :
        ∃ tokens : List (Token settings), Writes tokens text expr :=
      ih text.length (hn ▸ Nat.lt_of_lt_of_le hpart.length_lt hle) hbuild rfl
    have htrimmed : ∃ tokens : List (Token settings), Writes tokens (trim cs) expr := by
      rw [build_eq, step] at h
      split at h
      · cases h
      next c rest hcs =>
      rw [← hcs] at h
      split at h
      · next inner hinner =>
        obtain ⟨tokens, htokens⟩ := hpart (isPart_of_unwrap hinner) h
        rw [(unwrap_eq_some hinner).1]
        exact ⟨_, htokens.group⟩
      · have hne : trim cs ≠ [] := hcs ▸ List.cons_ne_nil c rest
        obtain ⟨tokens, -, htokens⟩ :=
          exists_writes_of_fromParts (trim_trim cs) hne hpart (fromParts_of_ofParts h)
        exact ⟨tokens, htokens⟩
    obtain ⟨tokens, htokens⟩ := htrimmed
    exact ⟨tokens, htokens.spells.of_trim, htokens.nested, htokens.contents_eq⟩

end PathQuery.Expr
