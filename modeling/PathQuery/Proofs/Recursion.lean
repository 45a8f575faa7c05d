import PathQuery.Expr.Build
import PathQuery.Proofs.WordShape

/-!
# The builder asks for smaller texts only

Reading a word, a list of words or one step of an expression calls the builder on pieces of what is
read, and never on all of it. `Expr.Asks` says which these are: two builders that agree on them give the
same result. `build` therefore satisfies the equation that one expects of it, `build_eq`.
-/

namespace PathQuery

open Unicode Text Outcome

/-! ## Parts -/

namespace Text

/-- A text that stands in a longer one in one piece. -/
structure IsPart (part whole : List Char) : Prop where
  piece : part <:+: whole
  length_lt : part.length < whole.length

namespace IsPart

variable {part whole text : List Char}

theorem of_append (front back : List Char) (h : front ++ part ++ back = whole)
    (hne : front ≠ [] ∨ back ≠ []) : IsPart part whole := by
  refine ⟨⟨front, back, h⟩, ?_⟩
  have hlength := congrArg List.length h
  rw [List.length_append, List.length_append] at hlength
  rcases hne with hne | hne
  · have := List.length_pos_iff.2 hne
    omega
  · have := List.length_pos_iff.2 hne
    omega

theorem trans_piece (h : IsPart part whole) (hwhole : whole <:+: text) : IsPart part text :=
  ⟨h.piece.trans hwhole, Nat.lt_of_lt_of_le h.length_lt hwhole.length_le⟩

theorem trans (h : IsPart part whole) (hwhole : IsPart whole text) : IsPart part text :=
  h.trans_piece hwhole.piece

/-- What is part of the end of a text is part of the text. -/
theorem append_left (h : IsPart part whole) (front : List Char) : IsPart part (front ++ whole) :=
  h.trans_piece ⟨front, [], List.append_nil _⟩

theorem cons (h : IsPart part whole) (c : Char) : IsPart part (c :: whole) :=
  h.append_left [c]

end IsPart

/-- What follows a key is the end of the text. -/
theorem exists_append_of_readKey {mark : Char} {cs key rest : List Char}
    (h : readKey mark cs = some (key, rest)) : ∃ front, front ++ rest = cs := by
  fun_induction readKey mark cs generalizing key rest with
  | case1 => cases h
  | case2 => cases h
  | case3 c cs ih =>
    obtain ⟨⟨key', rest'⟩, hkey, he⟩ := Option.map_eq_some_iff.1 h
    cases he
    obtain ⟨front, rfl⟩ := ih hkey
    exact ⟨'\\' :: c :: front, rfl⟩
  | case4 cs =>
    cases h
    exact ⟨[mark], rfl⟩
  | case5 c cs _ _ _ ih =>
    obtain ⟨⟨key', rest'⟩, hkey, he⟩ := Option.map_eq_some_iff.1 h
    cases he
    obtain ⟨front, rfl⟩ := ih hkey
    exact ⟨c :: front, rfl⟩

end Text

namespace Argument

/-- An expression among the arguments was there from the start, or it is a part of the text. -/
theorem isPart_of_mem_split {lenient : Bool} {segment : String} {held : Option Argument}
    {closed : Bool} {cs : List Char} {arguments : List (Option Argument)} {separators : List Char}
    (h : split lenient segment held closed cs = .ok (arguments, separators)) {text : List Char}
    (ht : some (.expression text) ∈ arguments) :
    held = some (.expression text) ∨ IsPart text cs := by
  fun_induction split lenient segment held closed cs generalizing arguments separators with
  | case1 held closed =>
    cases h
    exact .inl (List.mem_singleton.1 ht).symm
  | case2 => cases h
  | case3 => cases h
  | case4 held closed cs _ inner rest htake ih =>
    have hcs : ['('] ++ inner ++ ')' :: rest = '(' :: cs := by
      rw [← takeParenthesis_append htake]
      rfl
    rcases ih h ht with he | hpart
    · cases he
      exact .inr (.of_append ['('] (')' :: rest) hcs (.inl (List.cons_ne_nil _ _)))
    · rw [← hcs]
      exact .inr ((hpart.cons ')').append_left _)
  | case5 => cases h
  | case6 => cases h
  | case7 held closed c cs _ _ _ key rest hkey ih =>
    obtain ⟨front, rfl⟩ := exists_append_of_readKey hkey
    rcases ih h ht with he | hpart
    · cases he
    · exact .inr ((hpart.append_left front).cons c)
  | case8 held closed c rest _ _ _ ih =>
    obtain ⟨⟨arguments', separators'⟩, hsplit, he⟩ := bind_eq_ok.1 h
    cases he
    rcases List.mem_cons.1 ht with he | ht
    · exact .inl he.symm
    · rcases ih hsplit ht with he | hpart
      · cases he
      · exact .inr (hpart.cons c)
  | case9 held closed c rest _ _ _ _ _ ih => exact (ih h ht).imp_right fun hpart => hpart.cons c
  | case10 => cases h
  | case11 closed c rest _ _ _ _ ih =>
    rcases ih h ht with he | hpart
    · cases he
    · exact .inr (hpart.cons c)
  | case12 => cases h
  | case13 closed c rest _ _ _ _ bare _ ih =>
    rcases ih h ht with he | hpart
    · cases he
    · exact .inr (hpart.cons c)
  | case14 => cases h

end Argument

namespace Segment

variable {f g : ExprBuilder} {segment : String}

theorem buildExpr_congr {text : List Char} (h : f text = g text) :
    buildExpr f text = buildExpr g text := by
  rw [buildExpr, buildExpr, h]

theorem ofArgument_congr {argument : Option Argument}
    (h : ∀ text, argument = some (.expression text) → f text = g text) :
    ofArgument f segment argument = ofArgument g segment argument := by
  match argument with
  | none | some (.quoted _) | some (.bare _) => rfl
  | some (.expression text) => rw [ofArgument, ofArgument, buildExpr_congr (h text rfl)]

theorem memberOfArgument_congr {argument : Option Argument}
    (h : ∀ text, argument = some (.expression text) → f text = g text) :
    memberOfArgument f segment argument = memberOfArgument g segment argument := by
  match argument with
  | none | some (.quoted _) | some (.bare _) => rfl
  | some (.expression text) => rw [memberOfArgument, memberOfArgument, buildExpr_congr (h text rfl)]

theorem boundOfArgument_congr {argument : Option Argument}
    (h : ∀ text, argument = some (.expression text) → f text = g text) :
    boundOfArgument f segment argument = boundOfArgument g segment argument := by
  match argument with
  | none | some (.quoted _) | some (.bare _) => rfl
  | some (.expression text) => rw [boundOfArgument, boundOfArgument, buildExpr_congr (h text rfl)]

theorem ofArguments_congr {arguments : List (Option Argument)} {separators : List Char}
    (h : ∀ text, some (.expression text) ∈ arguments → f text = g text) :
    ofArguments f segment arguments separators = ofArguments g segment arguments separators := by
  have hhead : ofArgument f segment arguments.head?.join =
      ofArgument g segment arguments.head?.join := by
    refine ofArgument_congr fun text ht => h text ?_
    cases arguments with
    | nil => cases ht
    | cons a rest => exact List.mem_cons.2 (.inl ht.symm)
  have hmembers : arguments.mapM (memberOfArgument f segment) =
      arguments.mapM (memberOfArgument g segment) :=
    mapM_congr fun a ha => memberOfArgument_congr fun text ht => h text (ht ▸ ha)
  have hbounds : arguments.mapM (boundOfArgument f segment) =
      arguments.mapM (boundOfArgument g segment) :=
    mapM_congr fun a ha => boundOfArgument_congr fun text ht => h text (ht ▸ ha)
  rw [ofArguments, ofArguments, hhead, hmembers, hbounds]

/-- A text in parentheses that is an argument of a bracketed word. -/
def HasArgument (lenient : Bool) (word text : List Char) : Prop :=
  ∃ inner arguments separators, word = bracketed inner ∧ (∀ clause, inner ≠ '?' :: clause) ∧
    Argument.split lenient (String.ofList word) none false inner = .ok (arguments, separators) ∧
    some (.expression text) ∈ arguments

theorem HasArgument.isPart {lenient : Bool} {word text : List Char}
    (h : HasArgument lenient word text) : IsPart text word := by
  obtain ⟨inner, arguments, separators, rfl, -, hsplit, htext⟩ := h
  rcases Argument.isPart_of_mem_split hsplit htext with he | hpart
  · cases he
  · exact hpart.trans_piece ⟨['['], [']'], rfl⟩

theorem ofBracket_congr {lenient : Bool} {rest : List Char}
    (h : ∀ text, HasArgument lenient ('[' :: rest) text → f text = g text) :
    ofBracket lenient f rest = ofBracket lenient g rest := by
  unfold ofBracket
  split
  · next hlast =>
    obtain ⟨inner, rfl⟩ := List.getLast?_eq_some_iff.1 hlast
    rw [List.dropLast_concat]
    split
    · rfl
    · next hfilter =>
      dsimp only
      cases hsplit : Argument.split lenient (String.ofList ('[' :: (inner ++ [']']))) none false
          inner with
      | error fault => rfl
      | ok result =>
        obtain ⟨arguments, separators⟩ := result
        refine ofArguments_congr fun text ht => h text ?_
        exact ⟨inner, arguments, separators, rfl, hfilter, hsplit, ht⟩
  · rfl

theorem ofWord_congr {lenient : Bool} {word : List Char}
    (h : ∀ text, HasArgument lenient word text → f text = g text) :
    ofWord lenient f word = ofWord lenient g word := by
  unfold ofWord
  split
  all_goals try rfl
  exact ofBracket_congr h

end Segment

theorem Query.ofWords_congr {f g : ExprBuilder} {lenient : Bool} {words : List String}
    (h : ∀ word ∈ words, ∀ text, Segment.HasArgument lenient word.toList text → f text = g text) :
    ofWords lenient f words = ofWords lenient g words :=
  mapM_congr fun word hword => Segment.ofWord_congr (h word hword)

namespace Words

theorem IsCut.isPart_of_mem {anchor : Char} {text : List Char} {cut : Words}
    {parts : List (List Char × List Char)} {dot : List Char} (h : IsCut anchor text cut parts dot)
    {part : List Char × List Char} (hpart : part ∈ parts) : IsPart part.2 text := by
  obtain ⟨front, back, rfl⟩ := List.append_of_mem hpart
  have htext := h.text
  rw [List.flatMap_append, List.flatMap_cons] at htext
  refine .of_append (anchor :: (front.flatMap fun part => part.1 ++ part.2) ++ part.1)
    ((back.flatMap fun part => part.1 ++ part.2) ++ dot ++ cut.rest.toList) ?_ (.inl (by simp))
  rw [htext]
  simp

theorem infix_of_mem_ofSelector {cs : List Char} {cut : Words} (h : ofSelector cs = .ok cut)
    {word : String} (hword : word ∈ cut.words) : word.toList <:+: cs := by
  obtain ⟨anchor, c, rest, rfl, -, -, hcut⟩ := eq_cons_of_ofSelector h
  obtain ⟨parts, dot, hcut⟩ := exists_isCut_of_ofAnchor hcut
  rw [hcut.words, List.map_cons, List.mem_cons, List.map_map, List.mem_map] at hword
  rcases hword with rfl | ⟨part, hpart, rfl⟩
  · rw [String.toList_ofList]
    exact ⟨[], c :: rest, rfl⟩
  · show (String.ofList part.2).toList <:+: _
    rw [String.toList_ofList]
    exact (hcut.isPart_of_mem hpart).piece

end Words

namespace Expr

/-- The texts for which one step of building a text asks the builder: what is inside parentheses around
the whole, the sides of every split, and the arguments in every word of a selector. The right side of a
match is not among them, which is read as a literal, nor is the left side of an operator with a single
operand, which is blank. -/
inductive Asks (settings : Settings) (cs : List Char) : List Char → Prop
  | inner {part : List Char} : unwrap (trim cs) = some part → Asks settings cs part
  | left {op : Operator} {left right : List Char} : unwrap (trim cs) = none →
      (.operator op, left, right) ∈ Split.candidates settings.priorities (trim cs) →
      op.isUnary = false → Asks settings cs left
  | right {op : Operator} {left right : List Char} : unwrap (trim cs) = none →
      (.operator op, left, right) ∈ Split.candidates settings.priorities (trim cs) →
      op ≠ .matchPattern → Asks settings cs right
  | argument {anchor : Anchor} {left right part : List Char} {cut : Words} {word : String} :
      unwrap (trim cs) = none →
      (.selector anchor, left, right) ∈ Split.candidates settings.priorities (trim cs) →
      isBlank left = true → Words.ofSelector (trim cs) = .ok cut → word ∈ cut.words →
      Segment.HasArgument settings.lenient word.toList part → Asks settings cs part

variable {f g : ExprBuilder} {lenient : Bool}

theorem ofSelector_congr {anchor : Anchor} {cs : List Char}
    (h : ∀ cut, Words.ofSelector cs = .ok cut → ∀ word ∈ cut.words,
      ∀ text, Segment.HasArgument lenient word.toList text → f text = g text) :
    ofSelector lenient f anchor cs = ofSelector lenient g anchor cs := by
  unfold ofSelector
  cases hcut : Words.ofSelector cs with
  | error fault => exact Eq.trans (b := Except.error fault) rfl rfl
  | ok cut =>
    have hwords : Query.ofWords lenient f cut.words = Query.ofWords lenient g cut.words :=
      Query.ofWords_congr (h cut hcut)
    simp only [bind, Except.bind, hwords]

theorem firstResult_congr {α β ε : Type} {f g : α → Except ε (Option β)} {xs : List α}
    (h : ∀ x ∈ xs, f x = g x) : firstResult f xs = firstResult g xs := by
  induction xs with
  | nil => rfl
  | cons x xs ih =>
    rw [firstResult, firstResult, h x List.mem_cons_self,
      ih fun y hy => h y (List.mem_cons_of_mem _ hy)]

theorem unwrap_eq_some {cs inner : List Char} (h : unwrap cs = some inner) :
    cs = parenthesised inner ∧ parenthesesBalance 0 none inner = true := by
  unfold unwrap at h
  split at h
  · next rest =>
    split at h
    · next hrest =>
      cases h
      obtain ⟨front, rfl⟩ := List.getLast?_eq_some_iff.1 hrest.1
      exact ⟨by rw [List.dropLast_concat]; rfl, hrest.2⟩
    · cases h
  · cases h

theorem unwrap_parenthesised {cs : List Char} (h : Closed .parentheses cs) :
    unwrap (parenthesised cs) = some cs := by
  rw [parenthesised, unwrap, List.getLast?_concat, List.dropLast_concat,
    if_pos ⟨rfl, parenthesesBalance_of_closed h⟩]

theorem isPart_of_unwrap {cs inner : List Char} (h : unwrap cs = some inner) : IsPart inner cs :=
  .of_append ['('] [')'] (unwrap_eq_some h).1.symm (.inl (List.cons_ne_nil _ _))

/-- The operands of an operation are parts of its text. -/
theorem isPart_of_append_symbol {cs left right : List Char} {op : Operator}
    (h : left ++ op.symbol ++ right = cs) : IsPart left cs ∧ IsPart right cs := by
  constructor
  · exact .of_append [] (op.symbol ++ right) ((List.append_assoc _ _ _).symm.trans h)
      (.inr fun hnil => op.symbol_ne_nil (List.append_eq_nil_iff.1 hnil).1)
  · exact .of_append (left ++ op.symbol) [] ((List.append_nil _).trans h)
      (.inl fun hnil => op.symbol_ne_nil (List.append_eq_nil_iff.1 hnil).2)

theorem Asks.isPart {settings : Settings} {cs part : List Char} (h : Asks settings cs part) :
    IsPart part (trim cs) := by
  cases h with
  | inner hinner => exact isPart_of_unwrap hinner
  | left _ hsplit _ => exact (isPart_of_append_symbol (Split.append_of_mem_candidates hsplit)).1
  | right _ hsplit _ => exact (isPart_of_append_symbol (Split.append_of_mem_candidates hsplit)).2
  | argument _ _ _ hcut hword hpart =>
    exact hpart.isPart.trans_piece (Words.infix_of_mem_ofSelector hcut hword)

theorem ofSplit_congr {op : Operator} {cs left right : List Char}
    (hleft : op.isUnary = false → f left = g left) (hright : op ≠ .matchPattern → f right = g right) :
    ofSplit lenient f cs (.operator op, left, right) =
      ofSplit lenient g cs (.operator op, left, right) := by
  have hoperand : ofRight f op right = ofRight g op right := by
    unfold ofRight
    split
    · rfl
    · next hop => exact hright hop
  cases hunary : op.isUnary with
  | true =>
    have hop : op ≠ .matchPattern := by
      rintro rfl
      cases hunary
    simp only [ofSplit, hunary, if_true, hright hop]
  | false => simp only [ofSplit, hunary, Bool.false_eq_true, if_false, hleft hunary, hoperand]

/-- A step depends on the builder only through the texts that it asks for. -/
theorem step_congr {settings : Settings} {cs : List Char}
    (h : ∀ part, Asks settings cs part → f part = g part) :
    step settings f cs = step settings g cs := by
  unfold step
  split
  · rfl
  · next c rest hcs =>
    rw [← hcs]
    split
    · next inner hinner => exact h inner (.inner hinner)
    · next hunwrap =>
      have hsplits : ∀ split ∈ Split.candidates settings.priorities (trim cs),
          ofSplit settings.lenient f (trim cs) split =
            ofSplit settings.lenient g (trim cs) split := by
        rintro ⟨p, left, right⟩ hsplit
        cases p with
        | operator op =>
          exact ofSplit_congr (fun hop => h left (.left hunwrap hsplit hop))
            fun hop => h right (.right hunwrap hsplit hop)
        | selector anchor =>
          rw [ofSplit, ofSplit]
          split
          · next hblank =>
            rw [ofSelector_congr fun cut hcut word hword text htext =>
              h text (.argument hunwrap hsplit hblank hcut hword htext)]
          · rfl
      rw [ofParts, ofParts, firstResult_congr hsplits]

/-- `build` is a step over itself. -/
theorem build_eq (settings : Settings) (cs : List Char) :
    build settings cs = step settings (build settings) cs := by
  rw [build]
  refine step_congr fun part hpart => if_pos ?_
  exact Nat.lt_of_lt_of_le hpart.isPart.length_lt (length_trim_le cs)

end Expr

end PathQuery
