import PathQuery.Proofs.ExprText

/-!
# Chains of operators

Numbers with operators between them and no parentheses. Such a text is split at the operator of it
that comes first in the priority list, where this stands first in the text, and both sides likewise.

The search meets other places before that one: a minus sign in front of a number looks like a
subtraction. The text before such a sign is blank or it ends in an operator, and nothing can be
built from a text that ends in an operator.
-/

namespace PathQuery

open Number Text Unicode Outcome

/-- An operator of a chain with the white space around it, and the number behind it. -/
structure Link where
  before : List Char
  op : Operator
  after : List Char
  operand : Int64
  isBlank_before : isBlank before = true
  isBlank_after : isBlank after = true
  ne_not : op ≠ .not
  ne_matchPattern : op ≠ .matchPattern

namespace Link

/-- The text of an operator, without the number behind it. -/
def text (l : Link) : List Char :=
  l.before ++ (l.op.symbol ++ l.after)

/-- Whether an entry of the priority list is the operator of a link. -/
def isAt (p : Priority) (l : Link) : Bool :=
  p = .operator l.op

end Link

namespace Chain

/-- The text of a chain that starts with the number `n`. -/
def text (n : Int) : List Link → List Char
  | [] => intText n
  | l :: links => intText n ++ l.text ++ text l.operand.toInt links

/-- Cuts a chain at the first place of an operator. -/
def cutAt (p : Priority) : List Link → Option (List Link × Link × List Link)
  | [] => none
  | l :: links =>
    if l.isAt p then some ([], l, links)
    else (cutAt p links).map fun (front, m, back) => (l :: front, m, back)

theorem cutAt_eq_some {p : Priority} {links front back : List Link} {l : Link}
    (h : cutAt p links = some (front, l, back)) :
    links = front ++ l :: back ∧ p = .operator l.op ∧ ∀ m ∈ front, m.op ≠ l.op := by
  induction links generalizing front with
  | nil => cases h
  | cons m links ih =>
    rw [cutAt] at h
    split at h
    · next hm =>
      cases h
      exact ⟨rfl, of_decide_eq_true hm, fun _ hmem => by cases hmem⟩
    · next hm =>
      obtain ⟨⟨front', l', back'⟩, hcut, he⟩ := Option.map_eq_some_iff.1 h
      cases he
      obtain ⟨rfl, hp, hfront⟩ := ih hcut
      refine ⟨rfl, hp, fun x hx => ?_⟩
      rcases List.mem_cons.1 hx with rfl | hx
      · exact fun hop => hm (decide_eq_true (hop ▸ hp))
      · exact hfront x hx

theorem cutAt_eq_none {p : Priority} {links : List Link} (h : cutAt p links = none) {l : Link}
    (hl : l ∈ links) : p ≠ .operator l.op := by
  induction links with
  | nil => cases hl
  | cons m links ih =>
    rw [cutAt] at h
    split at h
    · cases h
    · next hm =>
      rcases List.mem_cons.1 hl with rfl | hl
      · exact fun hp => hm (decide_eq_true hp)
      · exact ih (Option.map_eq_none_iff.1 h) hl

/-- The expression that a chain stands for: it is cut at the operator that comes first in the
priority list, in the first place of that operator. -/
def tree (priorities : List Priority) (n : Int64) (links : List Link) : Expr :=
  match _hcut : priorities.findSome? (cutAt · links) with
  | none => .literal (.integer n)
  | some (front, l, back) =>
    .binary l.op (tree priorities n front) (tree priorities l.operand back)
termination_by links.length
decreasing_by
  all_goals
    obtain ⟨p, -, hp⟩ := List.exists_of_findSome?_eq_some _hcut
    rw [(cutAt_eq_some hp).1, List.length_append, List.length_cons]
    omega

theorem tree_nil (priorities : List Priority) (n : Int64) :
    tree priorities n [] = .literal (.integer n) := by
  have hnone : priorities.findSome? (cutAt · []) = none :=
    List.findSome?_eq_none_iff.2 fun _ _ => rfl
  rw [tree]
  split
  · rfl
  · next hcut => rw [hnone] at hcut; cases hcut

theorem tree_of_cut {priorities : List Priority} {n : Int64} {links front back : List Link}
    {l : Link} (h : priorities.findSome? (cutAt · links) = some (front, l, back)) :
    tree priorities n links =
      .binary l.op (tree priorities n front) (tree priorities l.operand back) := by
  rw [tree]
  split
  · next hcut => rw [h] at hcut; cases hcut
  · next hcut => rw [h] at hcut; cases hcut; rfl

/-! ## The text of a chain -/

variable {n : Int} {links : List Link} {p : Priority}

theorem intText_of_neg (hn : n < 0) : intText n = '-' :: intText (-n) := by
  cases n with
  | ofNat n => exact absurd hn (by simp)
  | negSucc n => rfl

theorem hasEnds_text (n : Int) (links : List Link) : HasEnds (text n links) := by
  induction links generalizing n with
  | nil => exact hasEnds_intText n
  | cons l links ih =>
    rw [text, List.append_assoc]
    exact (hasEnds_intText n).join (ih _) _

/-- A chain starts with a digit or a minus sign. -/
theorem exists_text_eq_cons (n : Int) (links : List Link) :
    ∃ c rest, text n links = c :: rest ∧ (c.isDigit = true ∨ c = '-') := by
  have hnumber : ∃ c rest, intText n = c :: rest := by
    obtain ⟨c, hc, -⟩ := (hasEnds_intText n).head
    exact ⟨c, List.head?_eq_some_iff.1 hc⟩
  obtain ⟨c, rest, htext⟩ := hnumber
  have hc := mem_intText (htext ▸ List.mem_cons_self)
  cases links with
  | nil => exact ⟨c, rest, htext, hc⟩
  | cons l links => exact ⟨c, _, by rw [text, htext]; rfl, hc⟩

/-- A chain ends in a digit. -/
theorem exists_text_eq_concat (n : Int) (links : List Link) :
    ∃ front d, text n links = front ++ [d] ∧ d.isDigit = true := by
  induction links generalizing n with
  | nil => exact exists_intText_eq_concat n
  | cons l links ih =>
    obtain ⟨front, d, htext, hd⟩ := ih l.operand.toInt
    exact ⟨intText n ++ l.text ++ front, d, by rw [text, htext, ← List.append_assoc], hd⟩

theorem text_append (n : Int) (front : List Link) (l : Link) (back : List Link) :
    text n (front ++ l :: back) = text n front ++ l.text ++ text l.operand.toInt back := by
  induction front generalizing n with
  | nil => rfl
  | cons m front ih => simp [text, ih]

/-! ## Where operators are found -/

/-- The places of an operator in a chain: its own, and for a subtraction also the minus signs. -/
inductive Cut : Operator → Int → List Link → List Char → List Char → Prop
  | sign {n : Int} {links : List Link} : n < 0 → Cut .sub n links [] (text (-n) links)
  | link (n : Int) (l : Link) (links : List Link) :
      Cut l.op n (l :: links) (intText n ++ l.before) (l.after ++ text l.operand.toInt links)
  | later (n : Int) {l : Link} {links : List Link} {op : Operator} {left right : List Char} :
      Cut op l.operand.toInt links left right →
      Cut op n (l :: links) (intText n ++ l.text ++ left) right

/-- Between the texts `before`, which is given backwards, and `rest`, an operator is found in `cs`
at these places. -/
def Finds (p : Priority) (before cs rest : List Char) (places : List (List Char × List Char)) :
    Prop :=
  Split.sides p.symbol before (Split.mark before 0 none (cs ++ rest)) =
    places.map (fun x => (before.reverse ++ x.1, x.2 ++ rest)) ++
      Split.sides p.symbol (cs.reverse ++ before) (Split.mark (cs.reverse ++ before) 0 none rest)

theorem Finds.append {before cs ds rest : List Char} {xs ys : List (List Char × List Char)}
    (hc : Finds p before cs (ds ++ rest) xs) (hd : Finds p (cs.reverse ++ before) ds rest ys) :
    Finds p before (cs ++ ds) rest
      (xs.map (fun x => (x.1, x.2 ++ ds)) ++ ys.map (fun y => (cs ++ y.1, y.2))) := by
  unfold Finds at hc hd ⊢
  rw [List.append_assoc, hc, hd, List.map_append, List.map_map, List.map_map]
  simp [Function.comp_def]

/-- In a number at most its minus sign is found. -/
theorem exists_finds_intText (p : Priority) (n : Int) (before : List Char) :
    ∃ signs, (∀ rest, Finds p before (intText n) rest signs) ∧
      ∀ x ∈ signs, p = .operator .sub ∧ n < 0 ∧ x = ([], intText (-n)) := by
  by_cases hn : 0 ≤ n
  · exact ⟨[], fun rest => Split.silent_digits (isDigits_intText hn) before rest, by simp⟩
  have hneg : n < 0 := by omega
  have hdigits : IsDigits (intText (-n)) := isDigits_intText (by omega)
  have hsilent := @Split.silent_digits p _ hdigits ('-' :: before)
  have hminus (rest : List Char) :
      Split.mark before 0 none (intText n ++ rest) =
        ('-', true) :: Split.mark ('-' :: before) 0 none (intText (-n) ++ rest) := by
    rw [intText_of_neg hneg]
    exact Split.mark_plain rfl (.inl (by decide)) _
  have hpassed : (intText n).reverse ++ before = (intText (-n)).reverse ++ '-' :: before := by
    rw [intText_of_neg hneg]
    simp
  by_cases hp : p.symbol.head? = some '-'
  · obtain rfl := Split.eq_sub_of_head?_symbol hp
    refine ⟨if Split.inExponent before then [] else [([], intText (-n))], fun rest => ?_, ?_⟩
    · rw [Finds, hminus, hpassed, ← hsilent]
      cases hexponent : Split.inExponent before <;>
        simp [Priority.symbol, Operator.symbol, Split.sides, Split.afterSymbol?, Split.standsAlone,
          hexponent, Split.map_fst_mark]
    · intro x hx
      split at hx
      · cases hx
      · exact ⟨rfl, hneg, List.mem_singleton.1 hx⟩
  · refine ⟨[], fun rest => ?_, by simp⟩
    rw [Finds, hminus, hpassed, Split.sides_of_head?_ne hp, hsilent]
    rfl

theorem isEdge_of_isDigit {c : Char} (h : c.isDigit = true) : Split.isEdge c = true := by
  simp [Split.isEdge, h]

/-- White space before an edge does no harm. -/
theorem isEdge_of_head?_append {blank cs : List Char} (hblank : isBlank blank = true)
    (h : ∀ c ∈ cs.head?, Split.isEdge c = true) :
    ∀ c ∈ (blank ++ cs).head?, Split.isEdge c = true := by
  intro c hc
  cases blank with
  | nil => exact h c hc
  | cons x blank =>
    cases hc
    have hspace : isSpace c = true := List.all_eq_true.1 hblank c List.mem_cons_self
    simp [Split.isEdge, hspace]

theorem isEdge_of_head?_text (n : Int) (links : List Link) (rest : List Char) :
    ∀ c ∈ (text n links ++ rest).head?, Split.isEdge c = true := by
  obtain ⟨c, tail, htext, hc⟩ := exists_text_eq_cons n links
  rw [htext]
  intro x hx
  cases hx
  rcases hc with hc | rfl
  · exact isEdge_of_isDigit hc
  · rfl

/-- Behind a number its operator is found, and no other one is found in its place. -/
theorem finds_link (p : Priority) (l : Link) {d : Char} (hd : d.isDigit = true)
    (before : List Char) {rest : List Char} (hrest : ∀ c ∈ rest.head?, Split.isEdge c = true) :
    Finds p (d :: before) l.text rest
      (if p = .operator l.op then [(l.before, l.after)] else []) := by
  have hblank : isBlank l.before.reverse = true := by
    rw [isBlank, List.all_reverse]
    exact l.isBlank_before
  have hspace := isSpace_of_isEnd (isEnd_of_isDigit hd)
  have htilde : d ≠ '~' := ne_of_isDigit hd (by decide)
  have hexpects := Split.expectsPattern_of_isBlank hblank hspace htilde before
  have hleft : ∀ c ∈ (l.before.reverse ++ d :: before).head?, Split.isEdge c = true :=
    isEdge_of_head?_append hblank fun c hc => by
      cases hc
      exact isEdge_of_isDigit hd
  have hright (passed : List Char) : ∀ x ∈ (Split.mark passed 0 none (l.after ++ rest)).head?,
      Split.isEdge x.1 = true := by
    intro x hx
    have hfst := congrArg List.head? (Split.map_fst_mark passed 0 none (l.after ++ rest))
    rw [List.head?_map, hx] at hfst
    exact isEdge_of_head?_append l.isBlank_after hrest x.1 hfst.symm
  rw [Finds, Link.text, List.append_assoc, List.append_assoc,
    Split.silent_of_isBlank l.isBlank_before, Split.mark_symbol l.op hexpects,
    Split.sides_operator l.op hleft (hright _), Split.map_fst_mark,
    Split.silent_of_isBlank l.isBlank_after]
  split <;> simp

theorem Finds.link {before cs rest : List Char} {xs : List (List Char × List Char)} {l : Link}
    (h : Finds p before cs (l.text ++ rest) xs)
    (hdigit : ∃ front d, cs = front ++ [d] ∧ d.isDigit = true)
    (hrest : ∀ c ∈ rest.head?, Split.isEdge c = true) :
    Finds p before (cs ++ l.text) rest (xs.map (fun x => (x.1, x.2 ++ l.text)) ++
      if p = .operator l.op then [(cs ++ l.before, l.after)] else []) := by
  obtain ⟨front, d, rfl, hd⟩ := hdigit
  have hlink := finds_link p l hd (front.reverse ++ before) hrest
  have hpassed : (front ++ [d]).reverse ++ before = d :: (front.reverse ++ before) := by simp
  rw [← hpassed] at hlink
  have happend := h.append hlink
  split at happend <;> simp_all

/-- In a chain nothing is found but its operators and the minus signs of its numbers. -/
theorem exists_finds_text (p : Priority) (n : Int) (links : List Link) (before rest : List Char) :
    ∃ places, Finds p before (text n links) rest places ∧
      ∀ x ∈ places, ∃ op, p = .operator op ∧ Cut op n links x.1 x.2 := by
  induction links generalizing n before with
  | nil =>
    obtain ⟨signs, hfinds, hsigns⟩ := exists_finds_intText p n before
    refine ⟨signs, hfinds rest, fun x hx => ?_⟩
    obtain ⟨hp, hn, rfl⟩ := hsigns x hx
    exact ⟨.sub, hp, .sign hn⟩
  | cons l links ih =>
    obtain ⟨signs, hnumber, hsigns⟩ := exists_finds_intText p n before
    obtain ⟨places, htail, hplaces⟩ :=
      ih l.operand.toInt ((intText n ++ l.text).reverse ++ before)
    have hlink := (hnumber (l.text ++ (text l.operand.toInt links ++ rest))).link
      (exists_intText_eq_concat n) (isEdge_of_head?_text l.operand.toInt links rest)
    refine ⟨_, hlink.append htail, fun x hx => ?_⟩
    rcases List.mem_append.1 hx with hx | hx
    · obtain ⟨y, hy, rfl⟩ := List.mem_map.1 hx
      rcases List.mem_append.1 hy with hy | hy
      · obtain ⟨z, hz, rfl⟩ := List.mem_map.1 hy
        obtain ⟨hp, hn, rfl⟩ := hsigns z hz
        exact ⟨.sub, hp, .sign hn⟩
      · split at hy
        · next hp =>
          obtain rfl := List.mem_singleton.1 hy
          exact ⟨l.op, hp, .link n l links⟩
        · cases hy
    · obtain ⟨y, hy, rfl⟩ := List.mem_map.1 hx
      obtain ⟨op, hp, hcut⟩ := hplaces y hy
      exact ⟨op, hp, .later n hcut⟩

/-! ## Text that ends in an operator -/

/-- A chain that starts with the number `n`, with an operator behind it. The operator is not a
minus sign: `1-` is a bare word. -/
def Dangling (n : Int) (cs : List Char) : Prop :=
  ∃ links, ∃ l : Link, l.op ≠ .sub ∧ cs = text n links ++ l.text

/-- An operator that is found in a chain without it is a minus sign, and so there is nothing before
it or an operator. -/
theorem Cut.left_eq_nil_or_dangling {op : Operator} {left right : List Char}
    (h : Cut op n links left right) (hop : ∀ l ∈ links, l.op ≠ op) :
    op = .sub ∧ (left = [] ∨ Dangling n left) := by
  induction h with
  | sign => exact ⟨rfl, .inl rfl⟩
  | link n l links => exact absurd rfl (hop l List.mem_cons_self)
  | @later n l links op left right _ ih =>
    obtain ⟨rfl, hleft⟩ := ih fun m hm => hop m (List.mem_cons_of_mem _ hm)
    refine ⟨rfl, .inr ?_⟩
    rcases hleft with rfl | ⟨front, m, hm, rfl⟩
    · exact ⟨[], l, hop l List.mem_cons_self, by simp [text]⟩
    · exact ⟨l :: front, m, hm, by simp [text]⟩

/-- Behind an operator of a chain there is a chain. -/
theorem Cut.exists_right {op : Operator} {left right : List Char} (h : Cut op n links left right) :
    op ≠ .not ∧ op ≠ .matchPattern ∧
      ∃ blank m back, isBlank blank = true ∧ right = blank ++ text m back := by
  induction h with
  | sign => exact ⟨by decide, by decide, [], _, _, rfl, rfl⟩
  | link n l links => exact ⟨l.ne_not, l.ne_matchPattern, l.after, _, _, l.isBlank_after, rfl⟩
  | later _ _ ih => exact ih

/-- An operator that is found in a chain with an operator behind it has nothing to its right, or
again such a chain. -/
theorem exists_of_mem_sides {l : Link} (hsub : l.op ≠ .sub) (hafter : l.after = [])
    {left right : List Char}
    (h : (left, right) ∈ Split.sides p.symbol [] (Split.mark [] 0 none (text n links ++ l.text))) :
    ∃ op, p = .operator op ∧ op ≠ .not ∧ op ≠ .matchPattern ∧ (right = [] ∨
      ∃ blank m rest, isBlank blank = true ∧ right = blank ++ rest ∧ Dangling m rest) := by
  obtain ⟨places, hfinds, hplaces⟩ := exists_finds_text p n links [] (l.text ++ [])
  have hsides := hfinds.link (exists_text_eq_concat n links) (by simp)
  rw [Finds, List.append_nil] at hsides
  rw [hsides, Split.mark, Split.sides, List.append_nil, List.mem_map] at h
  obtain ⟨x, hx, he⟩ := h
  rcases List.mem_append.1 hx with hx | hx
  · obtain ⟨y, hy, rfl⟩ := List.mem_map.1 hx
    obtain ⟨op, hp, hcut⟩ := hplaces y hy
    obtain ⟨hnot, hmatch, blank, m, back, hblank, hright⟩ := hcut.exists_right
    cases he
    have hdangling : Dangling m (text m back ++ l.text) := ⟨back, l, hsub, rfl⟩
    exact ⟨op, hp, hnot, hmatch, .inr ⟨blank, m, _, hblank, by simp [hright], hdangling⟩⟩
  · split at hx
    · next hp =>
      obtain rfl := List.mem_singleton.1 hx
      cases he
      exact ⟨l.op, hp, l.ne_not, l.ne_matchPattern, .inl (by simp [hafter])⟩
    · cases hx

end Chain

/-! ## What is no literal -/

/-- The last characters of the operators between numbers, the minus sign apart. -/
def operatorEnds : List Char :=
  ['|', '&', '=', '<', '>', '+', '*', '/', '%']

/-- None of them can stand at the end of a number or of a word. -/
theorem of_mem_operatorEnds {d : Char} (hd : d ∈ operatorEnds) :
    d.isDigit = false ∧ isSpace d = false ∧ Literal.isWordChar d = false ∧ d ≠ '.' ∧
      d.toLower ∉ ['f', 'y', 'n'] := by
  unfold operatorEnds at hd
  simp only [List.mem_cons, List.not_mem_nil, or_false] at hd
  rcases hd with rfl | rfl | rfl | rfl | rfl | rfl | rfl | rfl | rfl <;> decide

theorem readMagnitude_concat_eq_none {d : Char} (hd : d ∈ operatorEnds) (front : List Char) :
    readMagnitude (front ++ [d]) = none := by
  obtain ⟨hdigit, -, -, hpoint, hlower⟩ := of_mem_operatorEnds hd
  have hname {name : String} (last : Char) (hlast : name.toList.getLast? = some last)
      (h : String.ofList ((front ++ [d]).map Char.toLower) = name) : d.toLower = last := by
    rw [← h, String.toList_ofList, List.map_append, List.map_singleton,
      List.getLast?_concat] at hlast
    exact Option.some.inj hlast
  unfold readMagnitude
  split
  · next h => exact absurd (hname 'f' rfl h) fun e => hlower (by simp [e])
  · next h => exact absurd (hname 'y' rfl h) fun e => hlower (by simp [e])
  · next h => exact absurd (hname 'n' rfl h) fun e => hlower (by simp [e])
  · rw [readDecimal_concat_eq_none hdigit hpoint]
    rfl

/-- A text that starts like a number and ends like an operator is no literal. -/
theorem Literal.read_ne_ok {c d : Char} {front : List Char} (hc : c.isDigit = true ∨ c = '-')
    (hd : d ∈ operatorEnds) (value : Literal) : read (c :: (front ++ [d])) ≠ .ok value := by
  have hne {x : Char} (hx : x.isDigit = false) (hminus : x ≠ '-') : c ≠ x := by
    rcases hc with hc | rfl
    · exact ne_of_isDigit hc hx
    · exact hminus.symm
  obtain ⟨hdigit, -, hword, -⟩ := of_mem_operatorEnds hd
  have hint : readInt64 (c :: (front ++ [d])) = none := by
    rw [readInt64, ← List.cons_append, readInt_concat_eq_none hdigit]
    rfl
  have hfloat : readFloat (c :: (front ++ [d])) = none := by
    unfold readFloat
    split
    · next he => rw [← (List.cons.inj he).2, readMagnitude_concat_eq_none hd]; rfl
    · next he => exact absurd (List.cons.inj he).1 (hne (by decide) (by decide))
    · rw [← List.cons_append, readMagnitude_concat_eq_none hd]
  have hform : readForm (c :: (front ++ [d])) ≠ .ok value := by
    have hquote : isQuote c = false := by
      have hsingle : c ≠ '\'' := hne (by decide) (by decide)
      have hdouble : c ≠ '"' := hne (by decide) (by decide)
      simp [isQuote, hsingle, hdouble]
    have hslash : c ≠ '/' := hne (by decide) (by decide)
    have hbracket : c ≠ '[' := hne (by decide) (by decide)
    have hbrace : c ≠ '\x7b' := hne (by decide) (by decide)
    have hwords : (c :: (front ++ [d])).all isWordChar = false :=
      List.all_eq_false.2 ⟨d, by simp, by simp [hword]⟩
    rw [readForm, hquote, if_neg Bool.false_ne_true, if_neg (fun h => hslash h.1),
      if_neg (by simp [hbracket, hbrace]), hwords, if_neg Bool.false_ne_true]
    exact fun h => by cases h
  rw [read_of_isDigit hc, hint, hfloat, ite_self]
  exact hform

namespace Expr

/-! ## Splitting at an operator with two operands -/

section OfSplit

variable {lenient : Bool} {f : ExprBuilder} {op : Operator} {cs left right : List Char}

theorem ofSplit_eq_none (hop : op ≠ .not) (h : ∀ l, f left ≠ .ok (some l)) :
    ofSplit lenient f cs (.operator op, left, right) = .ok none := by
  have hunary : op.isUnary = false := decide_eq_false hop
  rw [ofSplit, hunary, if_neg Bool.false_ne_true]
  split
  · rfl
  split
  · rfl
  split
  · next l hl => exact absurd hl (h l)
  · rfl

theorem ofSplit_eq_binary {l r : Expr} (hnot : op ≠ .not) (hmatch : op ≠ .matchPattern)
    (hblankLeft : isBlank left = false) (hblankRight : isBlank right = false)
    (hl : f left = .ok (some l)) (hr : f right = .ok (some r)) :
    ofSplit lenient f cs (.operator op, left, right) = .ok (some (.binary op l r)) := by
  have hunary : op.isUnary = false := decide_eq_false hnot
  rw [ofSplit, hblankRight, hunary, hblankLeft, if_neg Bool.false_ne_true,
    if_neg Bool.false_ne_true, if_neg Bool.false_ne_true, hl, ofRight, if_neg hmatch, hr]
  rfl

/-- What is split at an operator has an expression on the right. -/
theorem exists_right_of_ofSplit {expr : Expr} (hnot : op ≠ .not) (hmatch : op ≠ .matchPattern)
    (h : ofSplit lenient f cs (.operator op, left, right) = .ok (some expr)) :
    isBlank right = false ∧ ∃ r, f right = .ok (some r) := by
  have hunary : op.isUnary = false := decide_eq_false hnot
  rw [ofSplit, hunary, if_neg Bool.false_ne_true] at h
  split at h
  · cases h
  next hblank =>
  refine ⟨by simpa using hblank, ?_⟩
  split at h
  · cases h
  split at h
  · obtain ⟨right', hright, he⟩ := map_eq_ok.1 h
    rw [ofRight, if_neg hmatch] at hright
    cases right' with
    | none => cases he
    | some r => exact ⟨r, hright⟩
  · cases h

end OfSplit

end Expr

/-! ## Building a chain -/

namespace Chain

open PathQuery.Expr

variable {settings : Settings}

theorem unwrap_eq_none {c : Char} (hc : c.isDigit = true ∨ c = '-') (rest : List Char) :
    unwrap (c :: rest) = none := by
  refine unwrap_of_head?_ne fun h => ?_
  cases h
  rcases hc with hc | hc <;> exact absurd hc (by decide)

theorem isSpace_eq_false {c : Char} (hc : c.isDigit = true ∨ c = '-') : isSpace c = false := by
  rcases hc with hc | rfl
  · exact isSpace_of_isEnd (isEnd_of_isDigit hc)
  · rfl

theorem exists_symbol_eq_concat {l : Link} (h : l.op ≠ .sub) :
    ∃ front d, l.op.symbol = front ++ [d] ∧ d ∈ operatorEnds := by
  have hnot := l.ne_not
  have hmatch := l.ne_matchPattern
  cases hop : l.op with
  | not => exact absurd hop hnot
  | matchPattern => exact absurd hop hmatch
  | sub => exact absurd hop h
  | or | and | eq | ne | le | ge | pow => exact ⟨[_], _, rfl, by decide⟩
  | lt | gt | add | mul | div | mod => exact ⟨[], _, rfl, by decide⟩

/-- Without the white space at its end, a chain with an operator behind it ends in that operator. -/
theorem trim_text_append {links : List Link} {l : Link} (hsub : l.op ≠ .sub) :
    ∃ c front d, (c.isDigit = true ∨ c = '-') ∧ d ∈ operatorEnds ∧
      trim (text n links ++ l.text) = c :: (front ++ [d]) ∧
      text n links ++ l.text = c :: (front ++ [d]) ++ l.after := by
  obtain ⟨c, rest, htext, hc⟩ := exists_text_eq_cons n links
  obtain ⟨front, d, hsymbol, hd⟩ := exists_symbol_eq_concat hsub
  have hcs : text n links ++ l.text = c :: ((rest ++ (l.before ++ front)) ++ [d]) ++ l.after := by
    simp [Link.text, htext, hsymbol]
  obtain ⟨-, hspace, -⟩ := of_mem_operatorEnds hd
  refine ⟨c, rest ++ (l.before ++ front), d, hc, hd, ?_, hcs⟩
  have hlast := List.getLast?_concat (l := c :: (rest ++ (l.before ++ front))) (a := d)
  rw [hcs, trim_append_right l.isBlank_after]
  exact trim_eq_self rfl (isSpace_eq_false hc) hlast hspace

/-- No expression is built from a chain with an operator behind it. -/
theorem build_ne_of_dangling {n : Int} {cs : List Char} (h : Dangling n cs) (expr : Expr) :
    build settings cs ≠ .ok (some expr) := by
  -- wherever the text is split, the right side is such a text again, and a shorter one
  induction hlength : cs.length using Nat.strong_induction_on generalizing n cs expr with
  | _ length ih =>
    obtain ⟨links, l, hsub, rfl⟩ := h
    obtain ⟨c, front, d, hc, hd, htrim, hcs⟩ := @trim_text_append n links l hsub
    intro hbuild
    rw [build_eq_ofParts_of_trim htrim (unwrap_eq_none hc _)] at hbuild
    obtain ⟨result, hresult, hbuild⟩ := bind_eq_ok.1 hbuild
    cases result with
    | none =>
      obtain ⟨value, hread, -⟩ := bind_eq_ok.1 hbuild
      exact Literal.read_ne_ok hc hd value hread
    | some expr' =>
      obtain ⟨⟨p, left, right⟩, hmem, hsplit⟩ := exists_of_firstResult hresult
      have happend := congrArg List.length (Split.append_of_mem_candidates hmem)
      simp only [Split.candidates, List.mem_flatMap, List.mem_map] at hmem
      obtain ⟨q, -, ⟨left', right'⟩, hsides, he⟩ := hmem
      cases he
      let bare : Link := { l with after := [], isBlank_after := rfl }
      have hcore : text n links ++ bare.text = c :: (front ++ [d]) := by
        refine (List.append_left_inj l.after).1 ?_
        rw [← hcs]
        simp [bare, Link.text]
      rw [← hcore] at hsides
      obtain ⟨op, rfl, hnot, hmatch, hright⟩ := exists_of_mem_sides (l := bare) hsub rfl hsides
      obtain ⟨hblank, r, hr⟩ := exists_right_of_ofSplit hnot hmatch hsplit
      rcases hright with rfl | ⟨blank, m, again, hblank', rfl, hagain⟩
      · cases hblank
      · rw [build_eq_of_trim_eq (trim_append_left hblank')] at hr
        refine ih again.length ?_ hagain r rfl hr
        have hsymbol := List.length_pos_iff.2 (Priority.operator op).symbol_ne_nil
        rw [← hlength, hcs]
        simp only [List.length_append, List.length_cons] at happend ⊢
        omega

theorem build_nil (expr : Expr) : build settings [] ≠ .ok (some expr) := by
  rw [build_eq, step]
  exact fun h => by cases h

theorem build_eq_ofParts_text (n : Int) (links : List Link) :
    build settings (text n links) = ofParts settings (build settings) (text n links) := by
  obtain ⟨c, rest, htext, hc⟩ := exists_text_eq_cons n links
  exact build_eq_ofParts (hasEnds_text n links) (htext ▸ unwrap_eq_none hc rest)

/-- What looks like an operator that a chain does not have is passed over. -/
theorem ofSplit_eq_none_of_cut {op : Operator} {cs left right : List Char}
    (h : Cut op n links left right) (hop : ∀ l ∈ links, l.op ≠ op) (after : List Char) :
    ofSplit settings.lenient (build settings) cs (.operator op, left, after) = .ok none := by
  obtain ⟨rfl, hleft⟩ := h.left_eq_nil_or_dangling hop
  refine ofSplit_eq_none (by decide) fun l => ?_
  rcases hleft with rfl | hdangling
  · exact build_nil l
  · exact build_ne_of_dangling hdangling l

/-- A number is built as it is read. -/
theorem build_number (n : Int64) :
    build settings (text n.toInt []) = .ok (some (.literal (.integer n))) := by
  have hread := (@Literal.read_text_iff (.integer n) trivial).2 trivial
  have hbuild := @build_literal settings (.integer n) trivial
  rw [hread] at hbuild
  exact hbuild

/-- The places of an operator in a chain, up to the first that is no minus sign. -/
theorem exists_sides_append (n : Int) (front : List Link) (l : Link) (back : List Link) :
    ∃ signs later : List (List Char × List Char),
      Split.sides (Priority.operator l.op).symbol []
          (Split.mark [] 0 none (text n (front ++ l :: back))) =
        signs ++ (text n front ++ l.before, l.after ++ text l.operand.toInt back) :: later ∧
      ∀ x ∈ signs, ∃ right, Cut l.op n front x.1 right := by
  obtain ⟨signs, hfinds, hsigns⟩ :=
    exists_finds_text (.operator l.op) n front [] (l.text ++ text l.operand.toInt back)
  have hedge := isEdge_of_head?_text l.operand.toInt back []
  rw [List.append_nil] at hedge
  have hsides := hfinds.link (exists_text_eq_concat n front) hedge
  rw [Finds, if_pos rfl, ← text_append, List.map_append, List.map_singleton, List.append_assoc,
    List.singleton_append] at hsides
  refine ⟨_, _, hsides, fun x hx => ?_⟩
  obtain ⟨y, hy, rfl⟩ := List.mem_map.1 hx
  obtain ⟨z, hz, rfl⟩ := List.mem_map.1 hy
  obtain ⟨op, hop, hcut⟩ := hsigns z hz
  cases hop
  exact ⟨_, hcut⟩

/-- Entries of the priority list that a chain does not have are passed over. -/
theorem ofSplit_eq_none_of_candidate {links : List Link} {first : List Priority}
    (hfirst : ∀ p ∈ first, ∀ l ∈ links, p ≠ .operator l.op) :
    ∀ x ∈ Split.candidates first (text n links),
      ofSplit settings.lenient (build settings) (text n links) x = .ok none := by
  intro x hx
  simp only [Split.candidates, List.mem_flatMap, List.mem_map] at hx
  obtain ⟨p, hp, x, hx, rfl⟩ := hx
  obtain ⟨places, hfinds, hplaces⟩ := exists_finds_text p n links [] []
  rw [Finds, List.append_nil] at hfinds
  rw [hfinds, Split.mark, Split.sides, List.append_nil, List.mem_map] at hx
  obtain ⟨y, hy, rfl⟩ := hx
  obtain ⟨op, rfl, hcut⟩ := hplaces y hy
  exact ofSplit_eq_none_of_cut hcut (fun l hl hop => hfirst _ hp l hl (hop ▸ rfl)) _

/-- The right place to split a chain gives both sides. -/
theorem ofSplit_eq_binary_of_build {n : Int} {front back : List Link} {l : Link}
    {left right : Expr} (hleft : build settings (text n front) = .ok (some left))
    (hright : build settings (text l.operand.toInt back) = .ok (some right)) (cs : List Char) :
    ofSplit settings.lenient (build settings) cs
      (.operator l.op, text n front ++ l.before, l.after ++ text l.operand.toInt back) =
        .ok (some (.binary l.op left right)) := by
  have hblankLeft := (hasEnds_text n front).isBlank_append l.before
  have hblankRight : isBlank (l.after ++ text l.operand.toInt back) = false := by
    rw [isBlank, List.all_append]
    have hends := (hasEnds_text l.operand.toInt back).isBlank_eq
    rw [isBlank] at hends
    rw [hends, Bool.and_false]
  refine ofSplit_eq_binary l.ne_not l.ne_matchPattern hblankLeft hblankRight ?_ ?_
  · rw [build_eq_of_trim_eq (trim_append_right l.isBlank_before), hleft]
  · rw [build_eq_of_trim_eq (trim_append_left l.isBlank_after), hright]

/-- A chain is split in the first place of the operator that comes first in the priority list. -/
theorem build_append {n : Int} {front back : List Link} {l : Link} {first last : List Priority}
    (hpriorities : settings.priorities = first ++ .operator l.op :: last)
    (hfirst : ∀ p ∈ first, ∀ m ∈ front ++ l :: back, p ≠ .operator m.op)
    (hfront : ∀ m ∈ front, m.op ≠ l.op) {left right : Expr}
    (hleft : build settings (text n front) = .ok (some left))
    (hright : build settings (text l.operand.toInt back) = .ok (some right)) :
    build settings (text n (front ++ l :: back)) = .ok (some (.binary l.op left right)) := by
  obtain ⟨signs, later, hsides, hsigns⟩ := exists_sides_append n front l back
  have hsign : ∀ x ∈ signs.map (Priority.operator l.op, ·),
      ofSplit settings.lenient (build settings) (text n (front ++ l :: back)) x = .ok none := by
    intro x hx
    obtain ⟨y, hy, rfl⟩ := List.mem_map.1 hx
    obtain ⟨after, hcut⟩ := hsigns y hy
    exact ofSplit_eq_none_of_cut hcut hfront _
  have hcandidates : ∃ rest, Split.candidates settings.priorities (text n (front ++ l :: back)) =
      Split.candidates first (text n (front ++ l :: back)) ++
        (signs.map (Priority.operator l.op, ·) ++ (.operator l.op, text n front ++ l.before,
          l.after ++ text l.operand.toInt back) :: rest) := by
    rw [hpriorities, Split.candidates, List.flatMap_append, List.flatMap_cons, hsides,
      List.map_append, List.map_cons, List.append_assoc, List.cons_append]
    exact ⟨_, rfl⟩
  obtain ⟨rest, hcandidates⟩ := hcandidates
  rw [build_eq_ofParts_text, ofParts, hcandidates,
    firstResult_append_of_none (ofSplit_eq_none_of_candidate hfirst),
    firstResult_append_of_none hsign,
    firstResult_cons_of_some (ofSplit_eq_binary_of_build hleft hright _)]
  rfl

/-- A chain is built as the expression it stands for, if the priority list has its operators: it is
split at the operator that comes first in the list, in the first place of that operator, whatever
white space stands around the operators. -/
theorem build_text (n : Int64) (links : List Link)
    (h : ∀ l ∈ links, .operator l.op ∈ settings.priorities) :
    build settings (text n.toInt links) = .ok (some (tree settings.priorities n links)) := by
  fun_induction tree settings.priorities n links with
  | case1 n links hcut =>
    cases links with
    | nil => exact build_number n
    | cons l links =>
      have hnone := List.findSome?_eq_none_iff.1 hcut _ (h l List.mem_cons_self)
      exact absurd rfl (cutAt_eq_none hnone List.mem_cons_self)
  | case2 n links front l back hcut ihFront ihBack =>
    obtain ⟨first, p, last, hpriorities, hp, hfirst⟩ := List.findSome?_eq_some_iff.1 hcut
    obtain ⟨rfl, rfl, hfront⟩ := cutAt_eq_some hp
    refine build_append hpriorities (fun q hq m hm => cutAt_eq_none (hfirst q hq) hm) hfront
      (ihFront fun m hm => h m (List.mem_append_left _ hm))
      (ihBack fun m hm => h m (List.mem_append_right _ (List.mem_cons_of_mem _ hm)))

/-- In `2 * -3- 1` the sign of the second number looks like the subtraction that comes first in the
usual order. -/
theorem build_text_of_sign :
    let links : List Link := [⟨[' '], .mul, [' '], -3, rfl, rfl, by decide, by decide⟩,
      ⟨[], .sub, [' '], 1, rfl, rfl, by decide, by decide⟩]
    (∀ l ∈ links, .operator l.op ∈ Settings.standard.priorities) ∧
      text (2 : Int64).toInt links = "2 * -3- 1".toList ∧
      build .standard (text (2 : Int64).toInt links) = .ok (some
        (.binary .sub (.binary .mul (.literal (.integer 2)) (.literal (.integer (-3))))
          (.literal (.integer 1)))) := by
  intro links
  have hmem : ∀ l ∈ links, .operator l.op ∈ Settings.standard.priorities := by
    simp [links, Settings.standard, Priority.default]
  have hsub : Settings.standard.priorities.findSome? (cutAt · links) =
      some (links.take 1, ⟨[], .sub, [' '], 1, rfl, rfl, by decide, by decide⟩, []) := rfl
  have hmul : Settings.standard.priorities.findSome? (cutAt · (links.take 1)) =
      some ([], ⟨[' '], .mul, [' '], -3, rfl, rfl, by decide, by decide⟩, []) := rfl
  refine ⟨hmem, by decide, ?_⟩
  rw [build_text 2 links hmem, tree_of_cut hsub, tree_of_cut hmul, tree_nil, tree_nil, tree_nil]

end Chain

end PathQuery
