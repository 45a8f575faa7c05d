import PathQuery.Proofs.WellFormed

/-!
# Canonical texts are balanced

The canonical text of whatever is well-formed closes the brackets, the parentheses and the
quotes that it opens, so that it can be put into brackets or parentheses and found again.
-/

namespace PathQuery

open Number Text Unicode

/-! ## White space -/

theorem isPlain_of_isSpace {c : Char} (h : isSpace c = true) : isPlain c = true := by
  by_contra hplain
  simp only [isPlain, isOpening, isClosing, isQuote, Bool.not_eq_true', Bool.or_eq_true,
    decide_eq_true_eq, Bool.not_eq_false] at hplain
  rcases hplain with (((rfl | rfl) | rfl) | ((rfl | rfl) | rfl)) | (rfl | rfl) <;>
    exact absurd h (by decide)

theorem balanced_of_isBlank {cs : List Char} (h : isBlank cs = true) : Balanced cs :=
  .of_forall fun c hc => isPlain_of_isSpace (List.all_eq_true.1 h c hc)

/-! ## Queries and expressions -/

theorem Literal.balanced_text (value : Literal) : Balanced value.text := by
  cases value with
  | null => exact .of_all rfl
  | bool b => cases b <;> exact .of_all rfl
  | integer n => exact balanced_intText _
  | float x => exact balanced_write _ x
  | string s => exact .quote _
  | json v => exact Json.documented.balanced_write v.toJson

theorem Operator.balanced_symbol (op : Operator) : Balanced op.symbol := by
  cases op <;> exact .of_all rfl

namespace Segment

theorem balanced_boundText {bound : Bound}
    (h : ∀ expr, bound.expr? = some expr → Balanced expr.text) : Balanced bound.text := by
  cases bound with
  | literal n => exact balanced_intText _
  | computed expr => exact (h expr rfl).parenthesised

theorem balanced_optionText {bound : Option Bound}
    (h : ∀ expr, bound.bind Bound.expr? = some expr → Balanced expr.text) :
    Balanced (Bound.optionText bound) := by
  cases bound with
  | none => exact .nil
  | some bound => exact balanced_boundText h

theorem balanced_memberText {member : Member}
    (h : ∀ expr, member.expr? = some expr → Balanced expr.text) : Balanced member.text := by
  cases member with
  | index n => exact balanced_intText _
  | key name => exact .quote _
  | computed expr => exact (h expr rfl).parenthesised

theorem balanced_membersText : ∀ {members : List Member},
    (∀ member ∈ members, ∀ expr, member.expr? = some expr → Balanced expr.text) →
      Balanced (Member.listText members)
  | [], _ => .nil
  | [member], h => balanced_memberText (h member List.mem_cons_self)
  | member :: _ :: _, h =>
    (balanced_memberText (h member List.mem_cons_self)).append
      (.cons rfl (balanced_membersText fun m hm => h m (List.mem_cons_of_mem _ hm)))

theorem text_range (start stop step : Option Bound) : (range start stop step).text =
    bracketed (Bound.optionText start ++ ':' :: (Bound.optionText stop ++
      match step with
      | none => []
      | some step => ':' :: step.text)) := by
  cases step <;> rfl

/-- Whether the canonical text of a segment stands in brackets. -/
def isBracketed : Segment → Bool
  | .root | .current | .descent | .length => false
  | _ => true

theorem exists_inner {s : Segment} (hs : s.WellFormed)
    (h : ∀ expr ∈ s.exprs, Balanced expr.text) (hb : s.isBracketed = true) :
    ∃ inner, s.text = bracketed inner ∧ Balanced inner := by
  cases s with
  | root => cases hb
  | current => cases hb
  | descent => cases hb
  | length => cases hb
  | wildcard => exact ⟨['*'], rfl, .of_all rfl⟩
  | key name => exact ⟨_, rfl, .quote _⟩
  | index n => exact ⟨_, rfl, balanced_intText _⟩
  | range start stop step =>
    have hbound {bound : Option Bound} (hmem : bound ∈ [start, stop, step]) :
        Balanced (Bound.optionText bound) :=
      balanced_optionText fun expr hexpr => h expr (List.mem_filterMap.2 ⟨bound, hmem, hexpr⟩)
    have hstart : Balanced (Bound.optionText start) := hbound (by simp)
    have hstop : Balanced (Bound.optionText stop) := hbound (by simp)
    cases step with
    | none =>
      rw [text_range]
      exact ⟨_, rfl, hstart.append (.cons rfl (hstop.append .nil))⟩
    | some step =>
      have hstep : Balanced (Bound.optionText (some step)) := hbound (by simp)
      rw [text_range]
      exact ⟨_, rfl, hstart.append (.cons rfl (hstop.append (.cons rfl hstep)))⟩
  | union members =>
    refine ⟨_, rfl, balanced_membersText fun member hmember expr hexpr => ?_⟩
    exact h expr (List.mem_filterMap.2 ⟨member, hmember, hexpr⟩)
  | filter text =>
    exact ⟨'?' :: parenthesised text.toList, rfl, .cons rfl rfl rfl hs.brackets,
      .cons rfl rfl rfl (hs.parentheses.group rfl rfl)⟩
  | script expr => exact ⟨_, rfl, (h expr (List.mem_singleton.2 rfl)).parenthesised⟩

theorem balanced_text {s : Segment} (hs : s.WellFormed)
    (h : ∀ expr ∈ s.exprs, Balanced expr.text) : Balanced s.text := by
  cases hb : s.isBracketed with
  | true =>
    obtain ⟨inner, htext, hinner⟩ := exists_inner hs h hb
    rw [htext]
    exact hinner.bracketed
  | false =>
    cases s with
    | root | current | descent | length => exact .of_all rfl
    | _ => cases hb

theorem balanced_pathText {path : List Segment} (h : ∀ s ∈ path, Balanced s.text) :
    Balanced (pathText path) := by
  induction path with
  | nil => exact .nil
  | cons s rest ih =>
    exact (h s List.mem_cons_self).append (ih fun x hx => h x (List.mem_cons_of_mem _ hx))

end Segment

/-- The text of an operand, with parentheses where it needs them. -/
def Expr.operandText (expr : Expr) : List Char :=
  if expr.isGrouped then parenthesised expr.text else expr.text

theorem Expr.balanced_operandText {expr : Expr} (h : Balanced expr.text) :
    Balanced expr.operandText := by
  unfold operandText
  split
  · exact h.parenthesised
  · exact h

theorem Expr.Passes.balanced_text {expr : Expr} (h : expr.Passes wellFormed) :
    Balanced expr.text := by
  induction h with
  | literal => exact Literal.balanced_text _
  | selector _ _ hs _ ih =>
    exact Segment.balanced_pathText fun s hmem => Segment.balanced_text (hs s hmem) (ih s hmem)
  | unary _ _ ih => exact (Operator.balanced_symbol _).append (balanced_operandText ih)
  | binary _ _ _ ihl ihr =>
    exact (balanced_operandText ihl).append (.cons rfl ((Operator.balanced_symbol _).append
      (.cons rfl (balanced_operandText ihr))))

/-- A well-formed segment in brackets can be taken out of them again. -/
theorem Segment.Passes.exists_inner {s : Segment} (h : s.Passes wellFormed)
    (hb : s.isBracketed = true) : ∃ inner, s.text = bracketed inner ∧ Balanced inner :=
  Segment.exists_inner h.own (fun expr hexpr => (h.exprs expr hexpr).balanced_text) hb

/-! ## The ends of a text -/

/-- Whether a character can stand at an end of the text of an operand. -/
def isEnd (c : Char) : Bool :=
  !isSpace c && c ≠ '=' && c ≠ '~'

/-- A text that neither starts nor ends with white space or with a part of a match operator. -/
structure HasEnds (cs : List Char) : Prop where
  head : ∃ c, cs.head? = some c ∧ isEnd c = true
  last : ∃ c, cs.getLast? = some c ∧ isEnd c = true

theorem isSpace_of_isEnd {c : Char} (h : isEnd c = true) : isSpace c = false := by
  simp only [isEnd, Bool.and_eq_true, Bool.not_eq_true'] at h
  exact h.1.1

theorem isEnd_of_isDigit {c : Char} (h : c.isDigit = true) : isEnd c = true := by
  have hne {d : Char} (hd : d.isDigit = false) : c ≠ d := ne_of_isDigit h hd
  have hspace : isSpace c = false := by
    rw [Char.isDigit_iff_toNat] at h
    have hlow : 48 ≤ c.toNat := h.1
    have hhigh : c.toNat ≤ 57 := h.2
    simp only [isSpace, Bool.or_eq_false_iff, Bool.and_eq_false_iff, decide_eq_false_iff_not,
      beq_eq_false_iff_ne]
    omega
  simp [isEnd, hspace, hne]

namespace HasEnds

variable {cs ds : List Char}

theorem ne_nil (h : HasEnds cs) : cs ≠ [] := by
  rintro rfl
  obtain ⟨c, hc, -⟩ := h.head
  cases hc

theorem trim_eq (h : HasEnds cs) : trim cs = cs := by
  obtain ⟨c, hhead, hc⟩ := h.head
  obtain ⟨d, hlast, hd⟩ := h.last
  exact trim_eq_self hhead (isSpace_of_isEnd hc) hlast (isSpace_of_isEnd hd)

theorem isBlank_eq (h : HasEnds cs) : isBlank cs = false := by
  cases hblank : isBlank cs with
  | false => rfl
  | true =>
    have htrim := h.trim_eq
    rw [trim_eq_nil_iff.2 hblank] at htrim
    exact absurd htrim.symm h.ne_nil

theorem isBlank_append (h : HasEnds cs) (ds : List Char) : isBlank (cs ++ ds) = false := by
  have hblank := h.isBlank_eq
  rw [isBlank] at hblank ⊢
  rw [List.all_append, hblank]
  rfl

/-- A text between two ends. -/
theorem group {o c : Char} (ho : isEnd o = true) (hc : isEnd c = true) :
    HasEnds (o :: (cs ++ [c])) :=
  ⟨⟨o, rfl, ho⟩, ⟨c, List.getLast?_concat (l := o :: cs), hc⟩⟩

theorem of_getLast? {c : Char} (hc : isEnd c = true) (h : ∃ d, cs.getLast? = some d ∧ isEnd d = true) :
    HasEnds (c :: cs) := by
  obtain ⟨d, hlast, hd⟩ := h
  obtain ⟨front, rfl⟩ := List.getLast?_eq_some_iff.1 hlast
  exact .group hc hd

theorem join (hc : HasEnds cs) (hd : HasEnds ds) (between : List Char) :
    HasEnds (cs ++ (between ++ ds)) := by
  obtain ⟨c, hhead, hc⟩ := hc.head
  obtain ⟨d, hlast, hd⟩ := hd.last
  refine ⟨⟨c, ?_, hc⟩, ⟨d, ?_, hd⟩⟩
  · rw [List.head?_append, hhead]
    rfl
  · rw [List.getLast?_append, List.getLast?_append, hlast]
    rfl

end HasEnds

theorem hasEnds_parenthesised (cs : List Char) : HasEnds (parenthesised cs) :=
  .group (by decide) (by decide)

theorem hasEnds_intText (n : Int) : HasEnds (intText n) := by
  obtain ⟨front, e, htext, he⟩ := exists_intText_eq_concat n
  refine ⟨?_, e, by rw [htext, List.getLast?_concat], isEnd_of_isDigit he⟩
  by_cases hn : 0 ≤ n
  · obtain ⟨d, rest, hcons, hd⟩ := (isDigits_intText hn).exists_cons
    exact ⟨d, by rw [hcons]; rfl, isEnd_of_isDigit hd⟩
  · obtain ⟨digits, hcons, -⟩ := exists_intText_eq_cons (n := n) (by omega)
    exact ⟨'-', by rw [hcons]; rfl, by decide⟩

theorem hasEnds_write {x : Float} (hx : x.isFinite = true) :
    HasEnds (FloatStyle.literal.write x) := by
  obtain ⟨body, hbody, hwrite⟩ := exists_write_eq hx
  obtain ⟨d, rest, hcons, hd⟩ := hbody.exists_cons
  obtain ⟨front, e, hconcat, he⟩ := hbody.exists_concat
  have hlast : ∃ c, body.getLast? = some c ∧ isEnd c = true :=
    ⟨e, by rw [hconcat, List.getLast?_concat], isEnd_of_isDigit he⟩
  rw [hwrite]
  by_cases hsign : isSignNegative x = true
  · rw [if_pos hsign]
    exact .of_getLast? (by decide) hlast
  · rw [if_neg hsign]
    exact ⟨⟨d, by rw [hcons]; rfl, isEnd_of_isDigit hd⟩, hlast⟩

theorem Literal.WellFormed.hasEnds {value : Literal} (h : value.WellFormed) :
    HasEnds value.text := by
  cases value with
  | null => exact ⟨⟨'n', rfl, by decide⟩, 'l', rfl, by decide⟩
  | bool b =>
    cases b with
    | false => exact ⟨⟨'f', rfl, by decide⟩, 'e', rfl, by decide⟩
    | true => exact ⟨⟨'t', rfl, by decide⟩, 'e', rfl, by decide⟩
  | integer n => exact hasEnds_intText _
  | float x => exact hasEnds_write h
  | string s => exact .group (by decide) (by decide)
  | json v =>
    cases v with
    | array | object => exact .group (by decide) (by decide)
    | _ => cases h

/-- The text of a segment ends like an operand. It may start with a dot. -/
theorem Segment.Passes.exists_getLast? {s : Segment} (h : s.Passes wellFormed) :
    ∃ c, s.text.getLast? = some c ∧ isEnd c = true := by
  cases hb : s.isBracketed with
  | true =>
    obtain ⟨inner, htext, -⟩ := h.exists_inner hb
    rw [htext]
    exact ⟨']', List.getLast?_concat (l := '[' :: inner), by decide⟩
  | false =>
    cases s with
    | root => exact ⟨'$', rfl, by decide⟩
    | current => exact ⟨'@', rfl, by decide⟩
    | descent => exact ⟨'.', rfl, by decide⟩
    | length => exact ⟨'h', rfl, by decide⟩
    | _ => cases hb

theorem Segment.exists_getLast?_pathText {path : List Segment} (hne : path ≠ [])
    (h : ∀ s ∈ path, s.Passes wellFormed) :
    ∃ c, (pathText path).getLast? = some c ∧ isEnd c = true := by
  induction path with
  | nil => exact absurd rfl hne
  | cons s rest ih =>
    rw [pathText, List.getLast?_append]
    by_cases hrest : rest = []
    · rw [hrest]
      exact (h s List.mem_cons_self).exists_getLast?
    · obtain ⟨c, hlast, hc⟩ := ih hrest fun x hx => h x (List.mem_cons_of_mem _ hx)
      exact ⟨c, by rw [hlast]; rfl, hc⟩

/-- The text of a selector is its anchor and the text of the rest of its path. -/
theorem Expr.exists_selectorText_eq {anchor : Anchor} {path : List Segment}
    (h : path.head? = some anchor.segment) :
    ∃ rest, path = anchor.segment :: rest ∧
      Segment.pathText path = anchor.symbol :: Segment.pathText rest := by
  obtain ⟨rest, rfl⟩ := List.head?_eq_some_iff.1 h
  refine ⟨rest, rfl, ?_⟩
  cases anchor <;> rfl

theorem Expr.hasEnds_operandText {expr : Expr} (h : HasEnds expr.text) :
    HasEnds expr.operandText := by
  unfold operandText
  split
  · exact hasEnds_parenthesised _
  · exact h

theorem Expr.Passes.hasEnds {expr : Expr} (h : expr.Passes wellFormed) : HasEnds expr.text := by
  induction h with
  | literal hvalue => exact hvalue.hasEnds
  | @selector anchor path hpath _ hs hx _ =>
    obtain ⟨hhead, hlength⟩ := hpath
    obtain ⟨rest, rfl, htext⟩ := exists_selectorText_eq hhead
    rw [Expr.text, htext]
    have hrest : rest ≠ [] := by
      rintro rfl
      exact absurd hlength (by simp)
    refine .of_getLast? (by cases anchor <;> decide)
      (Segment.exists_getLast?_pathText hrest fun s hmem => ?_)
    exact ⟨hs s (List.mem_cons_of_mem _ hmem), hx s (List.mem_cons_of_mem _ hmem)⟩
  | unary hop _ ih =>
    cases hop
    exact .of_getLast? (by decide) (hasEnds_operandText ih).last
  | @binary op left right _ _ _ ihl ihr =>
    have htext : (Expr.binary op left right).text =
        left.operandText ++ ((' ' :: (op.symbol ++ [' '])) ++ right.operandText) := by
      simp [Expr.text, operandText]
    rw [htext]
    exact (hasEnds_operandText ihl).join (hasEnds_operandText ihr) _

end PathQuery
