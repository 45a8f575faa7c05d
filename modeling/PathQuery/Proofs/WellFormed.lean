import PathQuery.Proofs.JsonFacts
import PathQuery.Proofs.Origin

/-!
# What the builder builds is well-formed

Some trees can never come from a text: a negation with two operands, a union with one member, a
filter whose text would close the bracket it stands in. `wellFormed` is the inspection that rules
these out, and every query that compiles passes it, whatever the settings are.
-/

namespace PathQuery

open Unicode Text Outcome

/-- What a constant that was read from a text satisfies. -/
def Literal.WellFormed : Literal → Prop
  | .float x => x.isFinite = true
  | .json v => v.isContainer = true
  | _ => True

/-- A text that can stand in the parentheses of a filter. Its brackets close together with these
parentheses: `a][b` is such a text. -/
structure IsFilterText (text : List Char) : Prop where
  brackets : Closed .brackets (parenthesised text)
  parentheses : Closed .parentheses text
  isBlank_eq : isBlank text = false

/-- What one expression satisfies that was built from a text. -/
def Expr.WellFormed : Expr → Prop
  | .literal value => value.WellFormed
  | .selector anchor path => path.head? = some anchor.segment ∧ 2 ≤ path.length
  | .unary op _ => op = .not
  | .binary op _ right => op ≠ .not ∧ (op = .matchPattern → ∃ value, right = .literal value)

/-- What one segment satisfies that was read from a word. -/
def Segment.WellFormed : Segment → Prop
  | .union members => 2 ≤ members.length
  | .filter text => IsFilterText text.toList
  | _ => True

/-- The inspection that everything passes that was built from a text. -/
def wellFormed : Inspection where
  expr := Expr.WellFormed
  segment := Segment.WellFormed

/-! ## Literals -/

theorem Literal.wellFormed_of_readForm {cs : List Char} {value : Literal}
    (h : readForm cs = .ok value) : value.WellFormed := by
  unfold readForm at h
  split at h
  · cases h
  · split at h
    · split at h
      · cases h; trivial
      · cases h
    · split at h
      · cases h; trivial
      · split at h
        · next hc =>
          split at h
          · next v hv =>
            cases h
            exact Value.isContainer_of_ofText? hc hv
          · cases h
        · split at h
          · cases h; trivial
          · cases h

theorem Literal.wellFormed_of_read {cs : List Char} {value : Literal} (h : read cs = .ok value) :
    value.WellFormed := by
  unfold read at h
  split at h
  · cases h; trivial
  split at h
  · cases h; trivial
  split at h
  · cases h; trivial
  split at h
  · cases h; trivial
  · split at h
    · split at h
      · next hx => cases h; exact hx
      · cases h
    · exact wellFormed_of_readForm h

/-! ## Segments -/

/-- There is one argument more than there are separators. -/
theorem Argument.length_of_split {lenient : Bool} {segment : String} {held : Option Argument}
    {closed : Bool} {cs : List Char} {arguments : List (Option Argument)} {separators : List Char}
    (h : split lenient segment held closed cs = .ok (arguments, separators)) :
    arguments.length = separators.length + 1 := by
  fun_induction split lenient segment held closed cs generalizing arguments separators with
  | case1 => cases h; rfl
  | case2 => cases h
  | case3 => cases h
  | case4 _ _ _ _ _ _ _ ih => exact ih h
  | case5 => cases h
  | case6 => cases h
  | case7 _ _ _ _ _ _ _ _ _ _ ih => exact ih h
  | case8 _ _ _ _ _ _ _ ih =>
    obtain ⟨⟨arguments', separators'⟩, hsplit, he⟩ := bind_eq_ok.1 h
    cases he
    rw [List.length_cons, List.length_cons, ih hsplit]
  | case9 _ _ _ _ _ _ _ _ _ ih => exact ih h
  | case10 => cases h
  | case11 _ _ _ _ _ _ _ ih => exact ih h
  | case12 => cases h
  | case13 _ _ _ _ _ _ _ _ _ ih => exact ih h
  | case14 => cases h

namespace Segment

variable {build : ExprBuilder}

theorem wellFormed_of_ofArguments {word : String} {arguments : List (Option Argument)}
    {separators : List Char} {s : Segment} (hlength : arguments.length = separators.length + 1)
    (h : ofArguments build word arguments separators = .ok s) : s.WellFormed := by
  cases s with
  | union members =>
    obtain ⟨hsep, hmembers⟩ := length_of_ofArguments_union h
    have hpos := List.length_pos_iff.2 hsep
    show 2 ≤ members.length
    omega
  | filter text => exact absurd h (ofArguments_ne_filter text)
  | _ => trivial

/-- The text of a filter closes its brackets because the whole bracket does. -/
theorem wellFormed_of_ofBracket {lenient : Bool} {rest : List Char} {s : Segment}
    (hword : Words.IsBracketed ('[' :: rest)) (h : ofBracket lenient build rest = .ok s) :
    s.WellFormed := by
  obtain ⟨inner, he, hclosed⟩ := hword.exists_closed
  rw [List.cons.injEq] at he
  rcases exists_of_ofBracket h with
    ⟨text, hrest, htext, hblank, rfl⟩ | ⟨_, arguments, separators, -, hsplit, hs⟩
  · have hinner : inner = '?' :: parenthesised text := by
      have := he.2.symm.trans hrest
      rwa [← List.cons_append, List.append_left_inj] at this
    rw [hinner] at hclosed
    have hbrackets : Closed .brackets (parenthesised text) := hclosed
    refine ⟨?_, ?_, ?_⟩ <;> rw [String.toList_ofList]
    · exact hbrackets
    · exact htext
    · exact hblank
  · exact wellFormed_of_ofArguments (Argument.length_of_split hsplit) hs

theorem wellFormed_of_ofWord {lenient : Bool} {word : List Char} {s : Segment}
    (hword : Words.IsWord word) (h : ofWord lenient build word = .ok s) : s.WellFormed := by
  rcases exists_of_ofWord h with ⟨rest, rfl, hbracket⟩ | rfl | rfl | rfl | rfl | rfl | rfl
  · exact wellFormed_of_ofBracket (hword.isBracketed rfl) hbracket
  all_goals trivial

/-- A segment of a word passes if the expressions in it do. -/
theorem passes_of_ofWord {lenient : Bool} {word : List Char} {s : Segment}
    (hword : Words.IsWord word) (h : ofWord lenient build word = .ok s)
    (hb : ∀ {text : List Char} {expr : Expr}, IsPart text word →
      build text = .ok (some expr) → expr.Passes wellFormed) : s.Passes wellFormed := by
  refine ⟨wellFormed_of_ofWord hword h, fun expr hexpr => ?_⟩
  obtain ⟨text, hpart, hbuild⟩ := exists_build_of_ofWord h hexpr
  exact hb hpart hbuild

end Segment

/-! ## Expressions -/

theorem Anchor.passes_segment (anchor : Anchor) : anchor.segment.Passes wellFormed := by
  cases anchor <;> exact Segment.passes_of_exprs_eq_nil trivial rfl

namespace Expr

theorem passes_of_fromStep {settings : Settings} {build : ExprBuilder} {cs : List Char} {expr : Expr}
    (hb : ∀ {text : List Char} {expr : Expr}, IsPart text cs →
      build text = .ok (some expr) → expr.Passes wellFormed)
    (h : FromStep settings build cs expr) : expr.Passes wellFormed := by
  cases h with
  | inner hpart hbuild => exact hb hpart hbuild
  | literal hread => exact .literal (Literal.wellFormed_of_read hread)
  | @selector anchor rest hne hwords =>
    refine passes_selector_iff.2 ⟨⟨rfl, ?_⟩, trivial, fun s hs => ?_⟩
    · have := List.length_pos_iff.2 hne
      rw [List.length_cons]
      omega
    · rcases List.mem_cons.1 hs with rfl | hs
      · exact anchor.passes_segment
      · obtain ⟨word, hword, hpart, hs⟩ := hwords s hs
        exact Segment.passes_of_ofWord hword hs fun h => hb (h.trans hpart)
  | unary hpart hbuild => exact .unary rfl (hb hpart hbuild)
  | binary hnot hmatch hleft hl hright hr =>
    exact .binary ⟨hnot, fun e => absurd e hmatch⟩ (hb hleft hl) (hb hright hr)
  | @pattern left value _ _ hleft hl hread =>
    have hvalue := Literal.wellFormed_of_read hread
    exact .binary ⟨by decide, fun _ => ⟨value, rfl⟩⟩ (hb hleft hl) (.literal hvalue)

/-- Every expression that is built is well-formed. -/
theorem passes_of_build {settings : Settings} {cs : List Char} {expr : Expr}
    (h : build settings cs = .ok (some expr)) : expr.Passes wellFormed :=
  build_induction passes_of_fromStep h

end Expr

/-- Every query that compiles is well-formed and starts at the document. -/
theorem Query.passes_of_compile {settings : Settings} {path : String} {query : Query}
    (h : compile settings path = .ok query) :
    Query.Passes wellFormed query ∧ query.head? = some .root := by
  obtain ⟨rest, rfl, hwords⟩ := exists_word_of_compile h
  refine ⟨⟨trivial, fun s hs => ?_⟩, rfl⟩
  rcases List.mem_cons.1 hs with rfl | hs
  · exact Anchor.passes_segment .root
  · obtain ⟨word, hword, -, hs⟩ := hwords s hs
    exact Segment.passes_of_ofWord hword hs fun _ => Expr.passes_of_build

end PathQuery
