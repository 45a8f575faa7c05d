import PathQuery.Proofs.Origin

/-!
# Segments as they are cut

A path is cut into words by one reader, and what stands between the brackets of a word is taken apart
by others. All of them go through quotes in the same way, whatever brackets they count: `Quoting.step`
is what they have in common. A word that was cut at its closing bracket has no quotes open there, so
that every key in it is closed. Nor is a word ever empty, and a bracket in it is closed; a path does
not fail to compile for any of these reasons.
-/

namespace PathQuery

open Unicode Text Outcome

/-! ## Quotes -/

namespace Text

/-- Where a reader is with respect to quotes after one more character. -/
def Quoting.step : Quoting → Char → Quoting
  | .escaped mark, _ => .inside mark
  | .inside mark, c => if c = '\\' then .escaped mark else .of (if c = mark then none else some mark)
  | .outside, c => .of (if isQuote c then some c else none)

/-- Where a reader is with respect to quotes after a text. -/
def Quoting.run (s : Quoting) (cs : List Char) : Quoting :=
  cs.foldl step s

@[simp] theorem Quoting.run_cons (s : Quoting) (c : Char) (cs : List Char) :
    s.run (c :: cs) = (s.step c).run cs := rfl

theorem Quoting.run_append (s : Quoting) (cs ds : List Char) :
    s.run (cs ++ ds) = (s.run cs).run ds :=
  List.foldl_append

theorem Quoting.step_outside {c : Char} (hc : isQuote c = false) : step .outside c = .outside := by
  simp [step, hc, Quoting.of]

theorem Quoting.step_mark {c : Char} (hc : isQuote c = true) : step .outside c = .inside c := by
  simp [step, hc, Quoting.of]

theorem Quoting.step_inside {c : Char} (hc : c ≠ '\\') (mark : Char) :
    step (.inside mark) c = .of (if c = mark then none else some mark) := by
  simp [step, hc]

/-- What a reader counts makes no difference to the quotes that it is in. -/
theorem Counter.quoting_of_step {d : Delimiters} {s t : Counter} {c : Char}
    (h : step d s c = some t) : t.quoting = s.quoting.step c := by
  obtain ⟨depth, quoting⟩ := s
  cases quoting with
  | escaped mark => cases h; rfl
  | inside mark =>
    by_cases hc : c = '\\'
    · subst hc
      cases h
      rfl
    · rw [step_inside hc] at h
      cases h
      rw [Quoting.step_inside hc]
  | outside =>
    cases hc : d.closes c with
    | false =>
      rw [step_outside hc] at h
      cases h
      rfl
    | true =>
      rw [Quoting.step_outside (d.isQuote_of_closes hc)]
      cases depth with
      | zero => rw [step_closes_zero hc] at h; cases h
      | succ depth =>
        rw [step_closes hc] at h
        cases h
        rfl

theorem Counter.quoting_of_run {d : Delimiters} {s t : Counter} {cs : List Char}
    (h : run d s cs = some t) : t.quoting = s.quoting.run cs := by
  induction cs generalizing s with
  | nil => cases h; rfl
  | cons c cs ih =>
    obtain ⟨u, hu, h⟩ := Option.bind_eq_some_iff.1 h
    rw [ih h, Quoting.run_cons, quoting_of_step hu]

/-- A closed text leaves no quotes open, whichever characters were counted. -/
theorem Closed.quoting_run {d : Delimiters} {cs : List Char} (h : Closed d cs) :
    Quoting.outside.run cs = .outside :=
  (Counter.quoting_of_run h).symm

/-- Behind a parenthesis a reader is in no quotes. -/
theorem quoting_run_of_takeParenthesis {cs text rest : List Char}
    (h : takeParenthesis 0 none cs = some (text, rest)) :
    Quoting.outside.run cs = Quoting.outside.run rest := by
  have hclosed : Closed .parentheses text := run_of_takeParenthesis h
  rw [← takeParenthesis_append h, Quoting.run_append, hclosed.quoting_run, Quoting.run_cons,
    Quoting.step_outside rfl]

/-- Quotes that close before the end of a text close a key, and no others are open behind it. -/
theorem exists_readKey_of_quoting_run {mark : Char} {cs : List Char}
    (h : (Quoting.inside mark).run cs = .outside) :
    ∃ key rest, readKey mark cs = some (key, rest) ∧ Quoting.outside.run rest = .outside := by
  fun_induction readKey mark cs with
  | case1 => cases h
  | case2 => cases h
  | case3 c cs ih =>
    obtain ⟨key, rest, hkey, hrest⟩ := ih h
    exact ⟨_, rest, by rw [hkey]; rfl, hrest⟩
  | case4 cs hnil hcons =>
    have hmark : mark ≠ '\\' := by
      rintro rfl
      cases cs with
      | nil => exact hnil rfl rfl
      | cons d cs => exact hcons d cs rfl rfl
    rw [Quoting.run_cons, Quoting.step_inside hmark, if_pos rfl] at h
    exact ⟨[], cs, rfl, h⟩
  | case5 c cs hnil hcons hc ih =>
    have hescape : c ≠ '\\' := by
      rintro rfl
      cases cs with
      | nil => exact hnil rfl rfl
      | cons d cs => exact hcons d cs rfl rfl
    rw [Quoting.run_cons, Quoting.step_inside hescape, if_neg hc] at h
    obtain ⟨key, rest, hkey, hrest⟩ := ih h
    exact ⟨c :: key, rest, by rw [hkey]; rfl, hrest⟩

end Text

/-! ## Words -/

/-- A fault that does not blame how the text was cut into segments. -/
def QueryFault.RespectsCut : QueryFault → Prop
  | .badSegment _ .empty | .badSegment _ .unbalanced | .badSegment _ .openQuote => False
  | _ => True

namespace Words

/-- Whatever a path is cut into has the form of a word, the anchor included. -/
theorem IsCut.isWord_of_mem {anchor : Char} (hanchor : anchor = '$' ∨ anchor = '@')
    {text : List Char} {cut : Words} {parts : List (List Char × List Char)} {dot : List Char}
    (h : IsCut anchor text cut parts dot) {word : String} (hword : word ∈ cut.words) :
    IsWord word.toList := by
  rw [h.words, List.map_cons, List.mem_cons, List.map_map, List.mem_map] at hword
  rcases hword with rfl | ⟨part, hpart, rfl⟩
  · rw [String.toList_ofList]
    rcases hanchor with rfl | rfl
    · exact .name (List.cons_ne_nil _ _) (List.forall_mem_singleton.2 rfl)
    · exact .name (List.cons_ne_nil _ _) (List.forall_mem_singleton.2 rfl)
  · simpa using h.isWord part hpart

theorem isWord_of_ofQuery {cs : List Char} {cut : Words} (h : ofQuery cs = .ok cut) :
    ∀ word ∈ cut.words, IsWord word.toList := by
  intro word hword
  obtain ⟨rest, rfl, hanchor⟩ := eq_cons_of_ofQuery h
  obtain ⟨parts, dot, hcut⟩ := exists_isCut_of_ofAnchor hanchor
  exact hcut.isWord_of_mem (.inl rfl) hword

theorem isWord_of_ofSelector {cs : List Char} {cut : Words} (h : ofSelector cs = .ok cut) :
    ∀ word ∈ cut.words, IsWord word.toList := by
  intro word hword
  obtain ⟨anchor, c, rest, rfl, hsymbol, -, hanchor⟩ := eq_cons_of_ofSelector h
  obtain ⟨parts, dot, hcut⟩ := exists_isCut_of_ofAnchor hanchor
  exact hcut.isWord_of_mem hsymbol hword

/-- What stands between the brackets of a word leaves no quotes open. -/
theorem IsBracketed.exists_quoting_run {word : List Char} (h : IsBracketed word) :
    ∃ inner, word = bracketed inner ∧ Quoting.outside.run inner = .outside := by
  obtain ⟨inner, rfl, hinner⟩ := h.exists_closed
  exact ⟨inner, rfl, hinner.quoting_run⟩

theorem scan_respectsCut (position : Nat) (afterDot : Bool) (cs : List Char) :
    FailsOnlyWith QueryFault.RespectsCut (scan position afterDot cs) := by
  fun_induction scan position afterDot cs with
  | case1 => exact .ok _
  | case2 _ _ _ ih => exact ih.bind fun _ => .ok _
  | case3 _ _ _ _ _ ih => exact ih
  | case4 => exact .error trivial
  | case5 => exact .error trivial
  | case6 _ _ _ _ _ _ _ ih => exact ih.bind fun _ => .ok _
  | case7 => exact .error trivial
  | case8 _ _ _ _ _ _ _ _ ih => exact ih.bind fun _ => .ok _
  | case9 => exact .ok _
  | case10 _ _ _ _ _ _ _ _ _ _ ih => exact ih.bind fun _ => .ok _

theorem ofAnchor_respectsCut (anchor : Char) (cs : List Char) :
    FailsOnlyWith QueryFault.RespectsCut (ofAnchor anchor cs) :=
  (scan_respectsCut 1 false cs).bind fun _ => .ok _

theorem ofQuery_respectsCut (cs : List Char) :
    FailsOnlyWith QueryFault.RespectsCut (ofQuery cs) := by
  unfold ofQuery
  split
  · exact .error trivial
  · split
    · split
      · exact ofAnchor_respectsCut _ _
      · exact .error trivial
    · exact ofAnchor_respectsCut _ _
  · exact .error trivial
  · exact .error trivial

theorem ofSelector_respectsCut (cs : List Char) :
    FailsOnlyWith QueryFault.RespectsCut (ofSelector cs) := by
  unfold ofSelector
  split
  · exact .error trivial
  · split
    · split
      · split
        · exact ofAnchor_respectsCut _ _
        · exact .error trivial
      · exact .error trivial
    · exact .error trivial

end Words

/-! ## Segments -/

/-- Outside of the keys and expressions that it takes out whole, the reader of arguments is in no
quotes, as the reader of the word was. -/
theorem Argument.split_respectsCut {lenient : Bool} {segment : String} {held : Option Argument}
    {closed : Bool} {cs : List Char} (h : Quoting.outside.run cs = .outside) :
    FailsOnlyWith QueryFault.RespectsCut (split lenient segment held closed cs) := by
  have hskip {c : Char} {rest : List Char} (hc : ¬isQuote c = true)
      (h : Quoting.outside.run (c :: rest) = .outside) : Quoting.outside.run rest = .outside := by
    rwa [Quoting.run_cons, Quoting.step_outside (by simpa using hc)] at h
  fun_induction split lenient segment held closed cs with
  | case1 => exact .ok _
  | case2 => exact .error trivial
  | case3 => exact .error trivial
  | case4 held closed cs _ text rest htake ih =>
    have hrest : Quoting.outside.run cs = .outside := hskip (by decide) h
    exact ih (quoting_run_of_takeParenthesis htake ▸ hrest)
  | case5 => exact .error trivial
  | case6 held closed c cs _ hc _ hkey =>
    rw [Quoting.run_cons, Quoting.step_mark hc] at h
    obtain ⟨key, rest, hsome, -⟩ := exists_readKey_of_quoting_run h
    cases hkey.symm.trans hsome
  | case7 held closed c cs _ hc _ key rest hkey ih =>
    rw [Quoting.run_cons, Quoting.step_mark hc] at h
    obtain ⟨key', rest', hsome, hrest⟩ := exists_readKey_of_quoting_run h
    cases hkey.symm.trans hsome
    exact ih hrest
  | case8 _ _ _ _ _ hc _ ih => exact (ih (hskip hc h)).bind fun _ => .ok _
  | case9 _ _ _ _ _ hc _ _ _ ih => exact ih (hskip hc h)
  | case10 => exact .error trivial
  | case11 _ _ _ _ hc _ _ ih => exact ih (hskip hc h)
  | case12 => exact .error trivial
  | case13 _ _ _ _ hc _ _ _ _ ih => exact ih (hskip hc h)
  | case14 => exact .error trivial

namespace Segment

variable {build : ExprBuilder} (hbuild : ∀ text, FailsOnlyWith QueryFault.RespectsCut (build text))

include hbuild

theorem buildExpr_respectsCut (text : List Char) :
    FailsOnlyWith QueryFault.RespectsCut (buildExpr build text) := by
  refine (hbuild text).bind fun result => ?_
  cases result with
  | none => exact .error trivial
  | some expr => exact .ok _

theorem ofArgument_respectsCut (word : String) (argument : Option Argument) :
    FailsOnlyWith QueryFault.RespectsCut (ofArgument build word argument) := by
  unfold ofArgument
  split
  · exact .error trivial
  · exact .ok _
  · exact (buildExpr_respectsCut hbuild _).map _
  · split
    · exact .ok _
    · split
      · exact .ok _
      · exact .error trivial

theorem memberOfArgument_respectsCut (word : String) (argument : Option Argument) :
    FailsOnlyWith QueryFault.RespectsCut (memberOfArgument build word argument) := by
  unfold memberOfArgument
  split
  · exact .error trivial
  · exact .ok _
  · exact (buildExpr_respectsCut hbuild _).map _
  · split
    · exact .ok _
    · exact .error trivial

theorem boundOfArgument_respectsCut (word : String) (argument : Option Argument) :
    FailsOnlyWith QueryFault.RespectsCut (boundOfArgument build word argument) := by
  unfold boundOfArgument
  split
  · exact .ok _
  · exact .error trivial
  · exact (buildExpr_respectsCut hbuild _).map _
  · split
    · exact .ok _
    · exact .error trivial

theorem ofArguments_respectsCut (word : String) (arguments : List (Option Argument))
    (separators : List Char) :
    FailsOnlyWith QueryFault.RespectsCut (ofArguments build word arguments separators) := by
  unfold ofArguments
  split
  · exact ofArgument_respectsCut hbuild word _
  · split
    · exact (FailsOnlyWith.mapM (memberOfArgument_respectsCut hbuild word) arguments).map _
    · split
      · split
        · exact .error trivial
        · exact (FailsOnlyWith.mapM (boundOfArgument_respectsCut hbuild word) arguments).bind
            fun _ => .ok _
      · exact .error trivial

omit hbuild in
theorem ofFilter_respectsCut (word : String) (clause : List Char) :
    FailsOnlyWith QueryFault.RespectsCut (ofFilter word clause) := by
  unfold ofFilter
  split
  · split
    · exact .error trivial
    · split
      · exact .error trivial
      · split
        · exact .error trivial
        · exact .ok _
  · exact .error trivial

theorem ofBracket_respectsCut (lenient : Bool) {inner : List Char}
    (h : Quoting.outside.run inner = .outside) :
    FailsOnlyWith QueryFault.RespectsCut (ofBracket lenient build (inner ++ [']'])) := by
  unfold ofBracket
  rw [if_pos List.getLast?_concat, List.dropLast_concat]
  split
  · exact ofFilter_respectsCut _ _
  · exact (Argument.split_respectsCut h).bind fun _ =>
      ofArguments_respectsCut hbuild _ _ _

theorem ofWord_respectsCut (lenient : Bool) {word : List Char} (hword : Words.IsWord word) :
    FailsOnlyWith QueryFault.RespectsCut (ofWord lenient build word) := by
  unfold ofWord
  split
  · cases hword with
    | name hne => exact absurd rfl hne
    | bracketed h => cases h.head
  · exact .ok _
  · exact .ok _
  · exact .ok _
  · exact .ok _
  · obtain ⟨inner, he, hinner⟩ := (hword.isBracketed rfl).exists_quoting_run
    rw [bracketed, List.cons.injEq] at he
    rw [he.2]
    exact ofBracket_respectsCut hbuild lenient hinner
  · split
    · exact .ok _
    · split
      · exact .error trivial
      · exact .ok _

end Segment

/-! ## Expressions and paths -/

theorem Query.ofWords_respectsCut {build : ExprBuilder}
    (hbuild : ∀ text, FailsOnlyWith QueryFault.RespectsCut (build text)) (lenient : Bool)
    {words : List String} (hwords : ∀ word ∈ words, Words.IsWord word.toList) :
    FailsOnlyWith QueryFault.RespectsCut (ofWords lenient build words) :=
  .mapM_of_mem fun word hword => Segment.ofWord_respectsCut hbuild lenient (hwords word hword)

theorem Literal.readForm_respectsCut (cs : List Char) :
    FailsOnlyWith QueryFault.RespectsCut (readForm cs) := by
  unfold readForm
  extract_lets fault
  split
  · exact .error trivial
  · split
    · split
      · exact .ok _
      · exact .error trivial
    · split
      · exact .ok _
      · split
        · split
          · exact .ok _
          · exact .error trivial
        · split
          · exact .ok _
          · exact .error trivial

theorem Literal.read_respectsCut (cs : List Char) :
    FailsOnlyWith QueryFault.RespectsCut (read cs) := by
  unfold read
  split
  · exact .ok _
  split
  · exact .ok _
  split
  · exact .ok _
  split
  · exact .ok _
  split
  · split
    · exact .ok _
    · exact .error trivial
  · exact readForm_respectsCut cs

namespace Expr

theorem firstResult_failsOnlyWith {α β ε : Type} {P : ε → Prop} {f : α → Except ε (Option β)}
    (hf : ∀ x, FailsOnlyWith P (f x)) (xs : List α) : FailsOnlyWith P (firstResult f xs) := by
  induction xs with
  | nil => exact .ok _
  | cons x xs ih =>
    rw [firstResult]
    split
    · exact ih
    · exact hf x

section Step

variable {build : ExprBuilder} (hbuild : ∀ text, FailsOnlyWith QueryFault.RespectsCut (build text))

include hbuild

theorem ofSelector_respectsCut (lenient : Bool) (anchor : Anchor) (cs : List Char) :
    FailsOnlyWith QueryFault.RespectsCut (ofSelector lenient build anchor cs) := by
  refine (Words.ofSelector_respectsCut cs).bind_of_ok fun cut hcut => ?_
  split
  · have hwords := Words.isWord_of_ofSelector hcut
    exact (Query.ofWords_respectsCut hbuild lenient hwords).bind fun _ => .ok _
  · split
    · exact .error trivial
    · exact .error trivial

theorem ofRight_respectsCut (op : Operator) (right : List Char) :
    FailsOnlyWith QueryFault.RespectsCut (ofRight build op right) := by
  unfold ofRight
  split
  · exact (Literal.read_respectsCut _).map _
  · exact hbuild right

theorem ofSplit_respectsCut (lenient : Bool) (cs : List Char)
    (split : Priority × List Char × List Char) :
    FailsOnlyWith QueryFault.RespectsCut (ofSplit lenient build cs split) := by
  unfold ofSplit
  split
  · split
    · exact (ofSelector_respectsCut hbuild lenient _ cs).map _
    · exact .ok _
  · split
    · exact .ok _
    · split
      · split
        · exact (hbuild _).map _
        · exact .ok _
      · split
        · exact .ok _
        · split
          · exact (ofRight_respectsCut hbuild _ _).map _
          · exact .ok _

theorem step_respectsCut (settings : Settings) (cs : List Char) :
    FailsOnlyWith QueryFault.RespectsCut (step settings build cs) := by
  unfold step
  split
  · exact .ok _
  · split
    · exact hbuild _
    · refine (firstResult_failsOnlyWith (ofSplit_respectsCut hbuild settings.lenient _) _).bind
        fun result => ?_
      cases result with
      | none => exact (Literal.read_respectsCut _).bind fun _ => .ok _
      | some expr => exact .ok _

end Step

/-- The builder that a step is given refuses texts that are not shorter, but it blames nothing. -/
theorem build_respectsCut (settings : Settings) (cs : List Char) :
    FailsOnlyWith QueryFault.RespectsCut (build settings cs) := by
  induction hn : cs.length using Nat.strong_induction_on generalizing cs with
  | _ n ih =>
    rw [build]
    refine step_respectsCut (fun part => ?_) settings cs
    split
    · next hlt => exact ih _ (hn ▸ hlt) part rfl
    · exact .ok _

end Expr

theorem Query.compile_respectsCut (settings : Settings) (path : String) :
    FailsOnlyWith QueryFault.RespectsCut (compile settings path) := by
  refine (Words.ofQuery_respectsCut path.toList).bind_of_ok fun cut hcut => ?_
  split
  · exact ofWords_respectsCut (Expr.build_respectsCut settings) settings.lenient
      (Words.isWord_of_ofQuery hcut)
  · exact .error trivial

theorem SegmentFlaw.reason_notMem {segment : String} {flaw : SegmentFlaw}
    (h : (QueryFault.badSegment segment flaw).RespectsCut) :
    flaw.reason ∉ ["empty segment", "unbalanced brackets", "unterminated quoted key"] := by
  cases flaw with
  | empty | unbalanced | openQuote => exact h.elim
  | _ => decide

/-- No path fails to compile because of a segment that is empty, lacks its closing bracket or holds a
key that is not closed, and no expression fails to build because of one in its selectors, at whatever
depth. In every bracket that a path or a selector is cut into, quotes that open where none are open
close again as a key. -/
theorem Query.compile_error_reason (settings : Settings) :
    (∀ path segment flaw, compile settings path = .error (.badSegment segment flaw) →
      flaw.reason ∉ ["empty segment", "unbalanced brackets", "unterminated quoted key"]) ∧
    (∀ text segment flaw, Expr.ofText settings text = .error (.badSegment segment flaw) →
      flaw.reason ∉ ["empty segment", "unbalanced brackets", "unterminated quoted key"]) ∧
    ∀ text cut, Words.ofQuery text = .ok cut ∨ Words.ofSelector text = .ok cut →
      ∀ front mark back, String.ofList (bracketed (front ++ mark :: back)) ∈ cut.words →
        isQuote mark = true → Quoting.outside.run front = .outside →
        ∃ key rest, readKey mark back = some (key, rest) := by
  refine ⟨?_, ?_, ?_⟩
  · intro path segment flaw h
    exact SegmentFlaw.reason_notMem (compile_respectsCut settings path _ h)
  · intro text segment flaw h
    exact SegmentFlaw.reason_notMem (Expr.build_respectsCut settings text.toList _ h)
  · intro text cut hcut front mark back hword hmark hfront
    have hcases : Words.IsWord (bracketed (front ++ mark :: back)) := by
      rcases hcut with hcut | hcut
      · simpa using Words.isWord_of_ofQuery hcut _ hword
      · simpa using Words.isWord_of_ofSelector hcut _ hword
    obtain ⟨inner, he, hinner⟩ := (hcases.isBracketed rfl).exists_quoting_run
    rw [bracketed, bracketed, List.cons.injEq, List.append_left_inj] at he
    rw [← he.2, Quoting.run_append, hfront, Quoting.run_cons, Quoting.step_mark hmark] at hinner
    obtain ⟨key, rest, hkey, -⟩ := exists_readKey_of_quoting_run hinner
    exact ⟨key, rest, hkey⟩

/-- A selector in a script fails for another reason, and an escaped quote does not end its key. -/
theorem Query.compile_error_reason_of_nested :
    (compile .standard "$[(@[])]" = .error (.badSegment "[]" .emptyBrackets) ∧
      Expr.ofText .standard "@[]" = .error (.badSegment "[]" .emptyBrackets) ∧
      Words.ofQuery "$['a',\"it's]\"]".toList = .ok ⟨["$", "['a',\"it's]\"]"], ""⟩) ∧
    SegmentFlaw.emptyBrackets.reason ∉
      ["empty segment", "unbalanced brackets", "unterminated quoted key"] ∧
    ∃ key rest, readKey '"' "it's]\"".toList = some (key, rest) := by
  have hpath : compile .standard "$[(@[])]" = .error (.badSegment "[]" .emptyBrackets) := by
    with_unfolding_all rfl
  have htext : Expr.ofText .standard "@[]" = .error (.badSegment "[]" .emptyBrackets) := by
    with_unfolding_all rfl
  have hcut : Words.ofQuery "$['a',\"it's]\"]".toList = .ok ⟨["$", "['a',\"it's]\"]"], ""⟩ := by
    cbv
  refine ⟨⟨hpath, htext, hcut⟩, (compile_error_reason .standard).1 _ _ _ hpath, ?_⟩
  exact (compile_error_reason .standard).2.2 _ _ (.inl hcut) "'a',".toList '"' "it's]\"".toList
    (by simp [bracketed]) rfl rfl

end PathQuery
