import PathQuery.Proofs.CanonicalText
import PathQuery.Query.Equality

/-!
# Reading the text of a segment

The canonical text of a segment in brackets is a list of arguments with separators between them,
and the splitter of arguments finds them again. What reading the whole word then comes to is
`Segment.traverse`: the segment with each expression in it read anew.
-/

namespace PathQuery

open Number Text Unicode Outcome

namespace Argument

/-- The text of an argument. -/
def text : Argument → List Char
  | .quoted key => quote key
  | .expression text => parenthesised text
  | .bare text => text

/-- The text of an argument that may be missing. -/
def optionText : Option Argument → List Char
  | none => []
  | some argument => argument.text

/-- The text of arguments with a separator between them. -/
def joinedText (separator : Char) : List (Option Argument) → List Char
  | [] => []
  | [argument] => optionText argument
  | argument :: next :: rest =>
    optionText argument ++ separator :: joinedText separator (next :: rest)

/-- Whether a character can stand in a bare argument, be it the first in its brackets. -/
def isBare (c : Char) : Bool :=
  c ≠ '(' && !isQuote c && c ≠ ':' && c ≠ ',' && !isSpace c && c ≠ '?'

/-- What the splitter needs to find an argument again. -/
def WellFormed : Argument → Prop
  | .quoted _ => True
  | .expression text => Closed .parentheses text
  | .bare text => text ≠ [] ∧ ∀ c ∈ text, isBare c = true

/-- Whether an argument is complete when its last character is read. -/
def isComplete : Argument → Bool
  | .bare _ => false
  | _ => true

section Split

variable {lenient : Bool} {segment : String}

/-- A bare argument is read on character by character. -/
theorem split_bare {cs : List Char} (h : ∀ c ∈ cs, isBare c = true) (held rest : List Char) :
    split lenient segment (some (.bare held)) false (cs ++ rest) =
      split lenient segment (some (.bare (held ++ cs))) false rest := by
  induction cs generalizing held with
  | nil => rw [List.nil_append, List.append_nil]
  | cons c cs ih =>
    have hc := h c List.mem_cons_self
    simp only [isBare, Bool.and_eq_true, Bool.not_eq_true', decide_eq_true_eq] at hc
    obtain ⟨⟨⟨⟨⟨hopen, hquote⟩, hcolon⟩, hcomma⟩, hspace⟩, -⟩ := hc
    rw [List.cons_append, split.eq_def]
    simp only [hopen, hquote, hcolon, hcomma, hspace, Bool.false_eq_true, if_false, or_false]
    rw [ih fun x hx => h x (List.mem_cons_of_mem _ hx), List.append_assoc]
    rfl

/-- A quoted argument is read to its closing quote. -/
theorem split_quoted {mark : Char} (hmark : isQuote mark = true) {cs key rest : List Char}
    (h : readKey mark cs = some (key, rest)) :
    split lenient segment none false (mark :: cs) =
      split lenient segment (some (.quoted key)) true rest := by
  have hopen : mark ≠ '(' := fun e => by rw [e] at hmark; cases hmark
  rw [split.eq_def]
  simp only [hopen, hmark, if_true, Option.isSome_none, Bool.false_eq_true, if_false]
  split
  · next hnone => rw [h] at hnone; cases hnone
  · next hsome => rw [h] at hsome; cases hsome; rfl

theorem split_text {argument : Argument} (h : argument.WellFormed) (rest : List Char) :
    split lenient segment none false (argument.text ++ rest) =
      split lenient segment (some argument) argument.isComplete rest := by
  cases argument with
  | quoted key =>
    have htext : (Argument.quoted key).text ++ rest =
        '\'' :: (key.flatMap escapeQuote ++ '\'' :: rest) := by
      simp [text, quote]
    rw [htext]
    exact split_quoted rfl (readKey_quote key rest)
  | expression text =>
    have htake := takeParenthesis_of_closed rest h
    have htext : (Argument.expression text).text ++ rest = '(' :: (text ++ ')' :: rest) := by
      simp [Argument.text, parenthesised]
    rw [htext, split.eq_def]
    simp only [if_true, Option.isSome_none, Bool.false_eq_true, if_false]
    split
    · next hnone => rw [htake] at hnone; cases hnone
    · next hsome => rw [htake] at hsome; cases hsome; rfl
  | bare text =>
    obtain ⟨hne, hbare⟩ := h
    obtain ⟨c, cs, rfl⟩ := List.exists_cons_of_ne_nil hne
    have hc := hbare c List.mem_cons_self
    simp only [isBare, Bool.and_eq_true, Bool.not_eq_true', decide_eq_true_eq] at hc
    obtain ⟨⟨⟨⟨⟨hopen, hquote⟩, hcolon⟩, hcomma⟩, hspace⟩, -⟩ := hc
    have htext : (Argument.bare (c :: cs)).text ++ rest = c :: (cs ++ rest) := rfl
    rw [htext, split.eq_def]
    simp only [hopen, hquote, hcolon, hcomma, hspace, Bool.false_eq_true, if_false, or_false]
    exact split_bare (fun x hx => hbare x (List.mem_cons_of_mem _ hx)) [c] rest

theorem split_optionText {argument : Option Argument} (h : ∀ a ∈ argument, a.WellFormed)
    (rest : List Char) : ∃ closed, split lenient segment none false (optionText argument ++ rest) =
      split lenient segment argument closed rest := by
  cases argument with
  | none => exact ⟨false, rfl⟩
  | some argument => exact ⟨_, split_text (h argument rfl) rest⟩

/-- Behind a separator the next argument begins. -/
theorem split_separator {separator : Char} (h : separator = ':' ∨ separator = ',')
    (held : Option Argument) (closed : Bool) (cs : List Char) :
    split lenient segment held closed (separator :: cs) =
      (split lenient segment none false cs).map fun found =>
        (held :: found.1, separator :: found.2) := by
  have hopen : separator ≠ '(' := by rcases h with rfl | rfl <;> decide
  have hquote : isQuote separator = false := by rcases h with rfl | rfl <;> rfl
  rw [split.eq_def]
  simp only [hopen, hquote, h, Bool.false_eq_true, if_false, if_true]
  cases split lenient segment none false cs <;> rfl

/-- The splitter finds the arguments and the separators of a list of arguments. -/
theorem split_joinedText {separator : Char} (hsep : separator = ':' ∨ separator = ',')
    {argument : Option Argument} {rest : List (Option Argument)}
    (h : ∀ a ∈ argument :: rest, ∀ b ∈ a, b.WellFormed) :
    split lenient segment none false (joinedText separator (argument :: rest)) =
      .ok (argument :: rest, List.replicate rest.length separator) := by
  induction rest generalizing argument with
  | nil =>
    obtain ⟨closed, hclosed⟩ := split_optionText
      (h argument List.mem_cons_self) []
    rw [List.append_nil] at hclosed
    rw [joinedText, hclosed, split.eq_def]
    rfl
  | cons next rest ih =>
    obtain ⟨closed, hclosed⟩ := split_optionText
      (h argument List.mem_cons_self) (separator :: joinedText separator (next :: rest))
    rw [joinedText, hclosed, split_separator hsep, ih fun a ha => h a (List.mem_cons_of_mem _ ha)]
    rfl

end Split

/-- Arguments do not look like a filter. -/
theorem head?_text_ne {argument : Argument} (h : argument.WellFormed) (rest : List Char) :
    (argument.text ++ rest).head? ≠ some '?' := by
  cases argument with
  | quoted key => exact fun e => absurd (Option.some.inj e) (by decide)
  | expression text => exact fun e => absurd (Option.some.inj e) (by decide)
  | bare text =>
    obtain ⟨hne, hbare⟩ := h
    obtain ⟨c, cs, rfl⟩ := List.exists_cons_of_ne_nil hne
    intro e
    have hc := hbare c List.mem_cons_self
    rw [Option.some.inj e] at hc
    exact absurd hc (by decide)

theorem head?_joinedText_ne {separator : Char} (hsep : separator ≠ '?') {argument : Option Argument}
    (h : ∀ a ∈ argument, a.WellFormed) (rest : List (Option Argument)) :
    (joinedText separator (argument :: rest)).head? ≠ some '?' := by
  cases rest with
  | nil =>
    cases argument with
    | none => exact fun e => by cases e
    | some a =>
      have ha := head?_text_ne (h a rfl) []
      rw [List.append_nil] at ha
      exact ha
  | cons next rest =>
    cases argument with
    | none => exact fun e => hsep (Option.some.inj e)
    | some a => exact head?_text_ne (h a rfl) _

end Argument

/-! ## The arguments of a segment -/

/-- The argument that an end of a slice is written as. -/
def Bound.argument : Bound → Argument
  | .literal n => .bare (intText n.toInt)
  | .computed expr => .expression expr.text

/-- The argument that a member of a union is written as. -/
def Member.argument : Member → Argument
  | .index n => .bare (intText n.toInt)
  | .key name => .quoted name.toList
  | .computed expr => .expression expr.text

theorem Argument.isBare_of_isDigit {c : Char} (h : c.isDigit = true) : isBare c = true := by
  have hne {d : Char} (hd : d.isDigit = false) : c ≠ d := ne_of_isDigit h hd
  have hspace := isSpace_of_isEnd (isEnd_of_isDigit h)
  simp [isBare, isQuote, hspace, hne]

theorem Argument.wellFormed_intText (n : Int) : WellFormed (.bare (intText n)) := by
  refine ⟨(hasEnds_intText n).ne_nil, fun c hc => ?_⟩
  rcases mem_intText hc with hc | rfl
  · exact isBare_of_isDigit hc
  · rfl

theorem Bound.wellFormed_argument {bound : Bound}
    (h : ∀ expr, bound.expr? = some expr → expr.Passes wellFormed) : bound.argument.WellFormed := by
  cases bound with
  | literal n => exact Argument.wellFormed_intText _
  | computed expr => exact (h expr rfl).balanced_text.parentheses

theorem Member.wellFormed_argument {member : Member}
    (h : ∀ expr, member.expr? = some expr → expr.Passes wellFormed) : member.argument.WellFormed := by
  cases member with
  | index n => exact Argument.wellFormed_intText _
  | key name => trivial
  | computed expr => exact (h expr rfl).balanced_text.parentheses

theorem Bound.optionText_eq (bound : Option Bound) :
    Bound.optionText bound = Argument.optionText (bound.map Bound.argument) := by
  cases bound with
  | none => rfl
  | some bound => cases bound <;> rfl

theorem Member.text_eq (member : Member) : member.text = member.argument.text := by
  cases member <;> rfl

theorem Member.listText_eq : ∀ members : List Member, Member.listText members =
    Argument.joinedText ',' (members.map fun member => some member.argument)
  | [] => rfl
  | [member] => member.text_eq
  | member :: next :: rest => by
    have htail := listText_eq (next :: rest)
    show member.text ++ ',' :: Member.listText (next :: rest) = _
    rw [htail, member.text_eq]
    rfl

/-! ## Reading a segment anew -/

variable {ε : Type} (f : Expr → Except ε Expr)

/-- An end of a slice with its expression read anew. -/
def Bound.traverse : Bound → Except ε Bound
  | .literal n => .ok (.literal n)
  | .computed expr => (f expr).map .computed

/-- An end of a slice that may be absent, with its expression read anew. -/
def Bound.traverseOption : Option Bound → Except ε (Option Bound)
  | none => .ok none
  | some bound => (bound.traverse f).map some

/-- A member of a union with its expression read anew. -/
def Member.traverse : Member → Except ε Member
  | .index n => .ok (.index n)
  | .key name => .ok (.key name)
  | .computed expr => (f expr).map .computed

/-- A segment with its expressions read anew. -/
def Segment.traverse : Segment → Except ε Segment
  | .range start stop step => do
    return .range (← Bound.traverseOption f start) (← Bound.traverseOption f stop)
      (← Bound.traverseOption f step)
  | .union members => (members.mapM (Member.traverse f)).map .union
  | .script expr => (f expr).map .script
  | s => .ok s

variable {f}

theorem Member.exists_of_mapM_beq {members again : List Member}
    (h : members.mapM (Member.traverse f) = .ok again) (heq : Member.beqList again members = true)
    {member : Member} (hmem : member ∈ members) {expr : Expr} (hexpr : member.expr? = some expr) :
    ∃ again, f expr = .ok again ∧ again.beq expr = true := by
  induction members generalizing again with
  | nil => cases hmem
  | cons first rest ih =>
    obtain ⟨first', rest', hfirst, hrest, rfl⟩ := mapM_cons_eq_ok.1 h
    rw [Member.beqList, Bool.and_eq_true] at heq
    rcases List.mem_cons.1 hmem with rfl | hmem
    · cases member with
      | index n => cases hexpr
      | key name => cases hexpr
      | computed expr' =>
        cases hexpr
        obtain ⟨expr', hexpr', rfl⟩ := map_eq_ok.1 hfirst
        exact ⟨expr', hexpr', by simpa [Member.beq] using heq.1⟩
    · exact ih hrest heq.2 hmem

theorem Bound.traverseOption_eq_ok_iff {bound : Option Bound} :
    Bound.traverseOption f bound = .ok bound ↔
      ∀ expr, bound.bind Bound.expr? = some expr → f expr = .ok expr := by
  match bound with
  | none | some (.literal _) => exact ⟨nofun, fun _ => rfl⟩
  | some (.computed expr) =>
    rw [Bound.traverseOption, Bound.traverse, map_eq_ok]
    simp [map_eq_ok, Bound.expr?]

theorem Member.traverse_eq_ok_iff {member : Member} :
    member.traverse f = .ok member ↔ ∀ expr, member.expr? = some expr → f expr = .ok expr := by
  cases member with
  | index n => exact ⟨nofun, fun _ => rfl⟩
  | key name => exact ⟨nofun, fun _ => rfl⟩
  | computed expr =>
    rw [Member.traverse, map_eq_ok]
    simp [Member.expr?]

namespace Segment

/-- Reading anew changes nothing just when it gives back every expression. -/
theorem traverse_eq_ok_iff {s : Segment} :
    s.traverse f = .ok s ↔ ∀ expr ∈ s.exprs, f expr = .ok expr := by
  cases s with
  | range start stop step =>
    rw [exprs, List.forall_mem_filterMap]
    simp only [List.forall_mem_cons, ← Bound.traverseOption_eq_ok_iff]
    constructor
    · intro h
      obtain ⟨start', hstart, h⟩ := bind_eq_ok.1 h
      obtain ⟨stop', hstop, h⟩ := bind_eq_ok.1 h
      obtain ⟨step', hstep, h⟩ := bind_eq_ok.1 h
      cases h
      exact ⟨hstart, hstop, hstep, List.forall_mem_nil _⟩
    · rintro ⟨hstart, hstop, hstep, -⟩
      rw [traverse, hstart, hstop, hstep]
      rfl
  | union members =>
    rw [traverse, map_eq_ok, exprs, List.forall_mem_filterMap]
    simp only [union.injEq, exists_eq_right, mapM_eq_ok_self_iff, Member.traverse_eq_ok_iff]
  | script expr =>
    rw [traverse, map_eq_ok, exprs, List.forall_mem_singleton]
    simp only [script.injEq, exists_eq_right]
  | _ => exact ⟨fun _ => List.forall_mem_nil _, fun _ => rfl⟩

/-- If reading anew gives an equal segment, then it gives an equal expression everywhere. -/
theorem exists_of_traverse_beq {s t : Segment} (h : s.traverse f = .ok t) (ht : t.beq s = true)
    {expr : Expr} (hexpr : expr ∈ s.exprs) : ∃ again, f expr = .ok again ∧ again.beq expr = true := by
  cases s with
  | range start stop step =>
    obtain ⟨start', hstart, h⟩ := bind_eq_ok.1 h
    obtain ⟨stop', hstop, h⟩ := bind_eq_ok.1 h
    obtain ⟨step', hstep, h⟩ := bind_eq_ok.1 h
    cases h
    simp only [Segment.beq, Bool.and_eq_true] at ht
    obtain ⟨⟨hstart', hstop'⟩, hstep'⟩ := ht
    have hbound {bound again : Option Bound} (hread : Bound.traverseOption f bound = .ok again)
        (heq : Bound.beqOption again bound = true) (hmem : bound.bind Bound.expr? = some expr) :
        ∃ again, f expr = .ok again ∧ again.beq expr = true := by
      rcases bound with _ | _ | _
      · cases hmem
      · cases hmem
      · cases hmem
        obtain ⟨bound', hbound', rfl⟩ := map_eq_ok.1 hread
        obtain ⟨expr', hexpr', rfl⟩ := map_eq_ok.1 hbound'
        exact ⟨expr', hexpr', by simpa [Bound.beqOption, Bound.beq] using heq⟩
    obtain ⟨bound, hmem, hbind⟩ := List.mem_filterMap.1 hexpr
    simp only [List.mem_cons, List.not_mem_nil, or_false] at hmem
    rcases hmem with rfl | rfl | rfl
    · exact hbound hstart hstart' hbind
    · exact hbound hstop hstop' hbind
    · exact hbound hstep hstep' hbind
  | union members =>
    obtain ⟨members', hmembers, rfl⟩ := map_eq_ok.1 h
    obtain ⟨member, hmem, hbind⟩ := List.mem_filterMap.1 hexpr
    rw [Segment.beq] at ht
    exact Member.exists_of_mapM_beq hmembers ht hmem hbind
  | script expr' =>
    obtain ⟨again, hagain, rfl⟩ := map_eq_ok.1 h
    rw [List.mem_singleton.1 hexpr]
    exact ⟨again, hagain, by simpa [Segment.beq] using ht⟩
  | _ => cases hexpr

/-! ## Reading a word -/

/-- The arguments of a segment in brackets that is no filter. -/
def arguments : Segment → List (Option Argument)
  | .wildcard => [some (.bare ['*'])]
  | .key name => [some (.quoted name.toList)]
  | .index n => [some (.bare (intText n.toInt))]
  | .range start stop none => [start.map Bound.argument, stop.map Bound.argument]
  | .range start stop (some step) =>
    [start.map Bound.argument, stop.map Bound.argument, some step.argument]
  | .union members => members.map fun member => some member.argument
  | .script expr => [some (.expression expr.text)]
  | _ => []

/-- The separator of the arguments of a segment. -/
def separator : Segment → Char
  | .range _ _ _ => ':'
  | _ => ','

theorem text_eq_of_arguments {s : Segment} (h : s.arguments ≠ []) :
    s.text = bracketed (Argument.joinedText s.separator s.arguments) := by
  cases s with
  | root | current | descent | length | filter => exact absurd rfl h
  | wildcard | key | index | script => rfl
  | range start stop step =>
    cases step with
    | none =>
      rw [text_range, Bound.optionText_eq, Bound.optionText_eq]
      dsimp only
      rw [List.append_nil]
      rfl
    | some step =>
      have hstep : step.text = step.argument.text := by cases step <;> rfl
      rw [text_range, Bound.optionText_eq, Bound.optionText_eq]
      dsimp only
      rw [hstep]
      rfl
  | union members =>
    show bracketed (Member.listText members) = _
    rw [Member.listText_eq]
    rfl

theorem wellFormed_arguments {s : Segment} (h : s.Passes wellFormed) :
    ∀ a ∈ s.arguments, ∀ b ∈ a, b.WellFormed := by
  cases s with
  | root | current | descent | length | filter => intro a ha; cases ha
  | wildcard =>
    intro a ha b hb
    rw [List.mem_singleton.1 ha] at hb
    cases hb
    exact ⟨by simp, List.forall_mem_singleton.2 rfl⟩
  | key name =>
    intro a ha b hb
    rw [List.mem_singleton.1 ha] at hb
    cases hb
    trivial
  | index n =>
    intro a ha b hb
    rw [List.mem_singleton.1 ha] at hb
    cases hb
    exact Argument.wellFormed_intText _
  | script expr =>
    intro a ha b hb
    rw [List.mem_singleton.1 ha] at hb
    cases hb
    exact (h.exprs expr (List.mem_singleton.2 rfl)).balanced_text.parentheses
  | range start stop step =>
    have hbound {bound : Option Bound} (hmem : bound ∈ [start, stop, step]) :
        ∀ b ∈ bound.map Bound.argument, b.WellFormed := by
      intro b hb
      obtain ⟨bound', rfl, rfl⟩ := Option.map_eq_some_iff.1 hb
      exact Bound.wellFormed_argument fun expr hexpr =>
        h.exprs expr (List.mem_filterMap.2 ⟨_, hmem, hexpr⟩)
    intro a ha b hb
    cases step with
    | none =>
      simp only [arguments, List.mem_cons, List.not_mem_nil, or_false] at ha
      rcases ha with rfl | rfl
      · exact hbound (by simp) b hb
      · exact hbound (by simp) b hb
    | some step =>
      simp only [arguments, List.mem_cons, List.not_mem_nil, or_false] at ha
      rcases ha with rfl | rfl | rfl
      · exact hbound (by simp) b hb
      · exact hbound (by simp) b hb
      · have hstep : b ∈ (some step).map Bound.argument := hb
        exact hbound (by simp) b hstep
  | union members =>
    intro a ha b hb
    obtain ⟨member, hmem, rfl⟩ := List.mem_map.1 ha
    cases hb
    exact Member.wellFormed_argument fun expr hexpr =>
      h.exprs expr (List.mem_filterMap.2 ⟨member, hmem, hexpr⟩)

variable {lenient : Bool} {build : ExprBuilder} {segment : String}

theorem buildExpr_eq_ok_iff {text : List Char} {expr : Expr} :
    buildExpr build text = .ok expr ↔ build text = .ok (some expr) := by
  constructor
  · intro h
    obtain ⟨result, hresult, he⟩ := bind_eq_ok.1 h
    cases result with
    | none => cases he
    | some result => cases he; exact hresult
  · intro h
    rw [buildExpr, h]
    rfl

theorem boundOfArgument_eq (bound : Option Bound) :
    boundOfArgument build segment (bound.map Bound.argument) =
      Bound.traverseOption (fun expr => buildExpr build expr.text) bound := by
  match bound with
  | none => rfl
  | some (.literal n) =>
    rw [Option.map_some, Bound.argument, boundOfArgument, readInt64_intText]
    rfl
  | some (.computed expr) =>
    rw [Option.map_some, Bound.argument, boundOfArgument, Bound.traverseOption, Bound.traverse]
    cases buildExpr build expr.text <;> rfl

theorem memberOfArgument_eq (member : Member) :
    memberOfArgument build segment (some member.argument) =
      member.traverse fun expr => buildExpr build expr.text := by
  cases member with
  | index n =>
    rw [Member.argument, memberOfArgument, readInt64_intText]
    rfl
  | key name =>
    rw [Member.argument, memberOfArgument, String.ofList_toList]
    rfl
  | computed expr => rfl

/-- Between commas there are the members of a union. -/
theorem ofArguments_commas {n : Nat} (hn : n ≠ 0) (arguments : List (Option Argument)) :
    ofArguments build segment arguments (List.replicate n ',') =
      (arguments.mapM (memberOfArgument build segment)).map .union := by
  have hempty : (List.replicate n ',').isEmpty = false := by
    rw [List.isEmpty_eq_false_iff, Ne, List.replicate_eq_nil_iff]
    exact hn
  have hall : (List.replicate n ',').all (· = ',') = true := by
    rw [List.all_eq_true]
    intro c hc
    rw [List.eq_of_mem_replicate hc]
    rfl
  rw [ofArguments, hempty, if_neg Bool.false_ne_true, if_pos hall]

theorem ofArguments_eq {s : Segment} (hs : s.WellFormed) (h : s.arguments ≠ []) :
    ofArguments build segment s.arguments (List.replicate (s.arguments.length - 1) s.separator) =
      s.traverse fun expr => buildExpr build expr.text := by
  cases s with
  | root | current | descent | length | filter => exact absurd rfl h
  | wildcard => rfl
  | key name =>
    show Except.ok (Segment.key (String.ofList name.toList)) = _
    rw [String.ofList_toList]
    rfl
  | index n =>
    have hne : intText n.toInt ≠ ['*'] := by
      intro e
      have hmem : '*' ∈ intText n.toInt := by rw [e]; exact List.mem_singleton.2 rfl
      rcases mem_intText hmem with hc | hc <;> exact absurd hc (by decide)
    show ofArgument build segment (some (.bare (intText n.toInt))) = _
    rw [ofArgument, if_neg hne, readInt64_intText]
    rfl
  | script expr => rfl
  | range start stop step =>
    have hstart := @boundOfArgument_eq build segment start
    have hstop := @boundOfArgument_eq build segment stop
    have hstep := @boundOfArgument_eq build segment step
    cases step with
    | none =>
      show ([start.map Bound.argument, stop.map Bound.argument].mapM
        (boundOfArgument build segment) >>= fun bounds =>
          Except.ok (range bounds[0]?.join bounds[1]?.join bounds[2]?.join)) = _
      simp only [List.mapM_cons, List.mapM_nil, hstart, hstop, traverse, bind_assoc, pure_bind]
      rfl
    | some step =>
      show ([start.map Bound.argument, stop.map Bound.argument,
        (some step).map Bound.argument].mapM (boundOfArgument build segment) >>= fun bounds =>
          Except.ok (range bounds[0]?.join bounds[1]?.join bounds[2]?.join)) = _
      simp only [List.mapM_cons, List.mapM_nil, hstart, hstop, hstep, traverse, bind_assoc, pure_bind]
      rfl
  | union members =>
    have hlength : 2 ≤ members.length := hs
    have hmembers : (members.map fun member => some member.argument).mapM
        (memberOfArgument build segment) =
          members.mapM (Member.traverse fun expr => buildExpr build expr.text) := by
      rw [List.mapM_map]
      exact mapM_congr fun member _ => memberOfArgument_eq member
    show ofArguments build segment (members.map fun member => some member.argument)
      (List.replicate (members.map fun member => some member.argument).length.pred ',') = _
    rw [List.length_map, Nat.pred_eq_sub_one, ofArguments_commas (by omega), hmembers]
    rfl

/-- The word of a segment in a path: its text without the dot of `.length`. -/
def word : Segment → List Char
  | .length => "length".toList
  | s => s.text

/-- A list of arguments in brackets is read argument by argument. -/
theorem ofWord_joinedText {separator : Char} (hsep : separator = ':' ∨ separator = ',')
    {argument : Option Argument} {rest : List (Option Argument)}
    (h : ∀ a ∈ argument :: rest, ∀ b ∈ a, b.WellFormed) :
    ofWord lenient build (bracketed (Argument.joinedText separator (argument :: rest))) =
      ofArguments build
        (String.ofList (bracketed (Argument.joinedText separator (argument :: rest))))
        (argument :: rest) (List.replicate rest.length separator) := by
  have hhead : (Argument.joinedText separator (argument :: rest)).head? ≠ some '?' :=
    Argument.head?_joinedText_ne (by rcases hsep with e | e <;> rw [e] <;> decide)
      (h argument List.mem_cons_self) rest
  rw [bracketed, ofWord, ofBracket, List.getLast?_concat, if_pos rfl, List.dropLast_concat]
  split
  · next clause hclause => exact absurd (congrArg List.head? hclause) hhead
  · rw [Argument.split_joinedText hsep h]
    rfl

/-- Reading the word of a segment comes to reading its expressions anew. -/
theorem ofWord_word {s : Segment} (h : s.Passes wellFormed) :
    ofWord lenient build s.word = s.traverse fun expr => buildExpr build expr.text := by
  by_cases harguments : s.arguments = []
  · cases s with
    | root | current | descent | length => rfl
    | filter text =>
      have hfilter : IsFilterText text.toList := h.own
      have htake := takeParenthesis_of_closed [] hfilter.parentheses
      have hword : (Segment.filter text).word = '[' :: ('?' :: parenthesised text.toList ++ [']']) := rfl
      rw [hword, ofWord, ofBracket, List.getLast?_concat, if_pos rfl, List.dropLast_concat]
      show ofFilter _ ('(' :: (text.toList ++ [')'])) = _
      rw [ofFilter, htake]
      simp only [List.isEmpty_nil, Bool.not_true, Bool.false_eq_true, if_false, hfilter.isBlank_eq,
        String.ofList_toList]
      rfl
    | wildcard | key | index | script => cases harguments
    | range start stop step => cases step <;> cases harguments
    | union members =>
      have hlength : 2 ≤ members.length := h.own
      rw [List.map_eq_nil_iff.1 harguments] at hlength
      exact absurd hlength (by decide)
  · obtain ⟨argument, rest, hcons⟩ := List.exists_cons_of_ne_nil harguments
    have hwell := wellFormed_arguments h
    rw [hcons] at hwell
    have hsep : s.separator = ':' ∨ s.separator = ',' := by cases s <;> simp [separator]
    have hword : s.word = bracketed (Argument.joinedText s.separator (argument :: rest)) := by
      rw [← hcons]
      cases s with
      | root | current | descent | length | filter => exact absurd rfl harguments
      | _ => exact text_eq_of_arguments harguments
    have heq := @ofArguments_eq build (String.ofList (bracketed
      (Argument.joinedText s.separator (argument :: rest)))) s h.own harguments
    rw [hcons] at heq
    rw [hword, ofWord_joinedText hsep hwell]
    exact heq

end Segment

end PathQuery
