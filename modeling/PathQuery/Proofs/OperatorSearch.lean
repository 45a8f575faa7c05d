import PathQuery.Expr.Split
import PathQuery.Proofs.CanonicalText

/-!
# Where operators are found

The search for an operator passes over brackets, quotes and the exponents of numbers. `Silent`
says of a text that nothing is found in it, whatever stands around it. The text of a binary
operation is silent but for the operator itself, and the text of a constant is silent but for a
minus sign at its front.
-/

namespace PathQuery.Split

open Number Text

variable {p : Priority} {cs ds : List Char}

/-- Puts a pattern between slashes. -/
def slashed (cs : List Char) : List Char :=
  '/' :: (cs ++ ['/'])

/-- A text in which an operator or an anchor is not found, whatever stands around it. -/
def Silent (p : Priority) (cs : List Char) : Prop :=
  ∀ before rest, sides p.symbol before (mark before 0 none (cs ++ rest)) =
    sides p.symbol (cs.reverse ++ before) (mark (cs.reverse ++ before) 0 none rest)

theorem silent_nil : Silent p [] := fun _ _ => rfl

theorem Silent.append (hc : Silent p cs) (hd : Silent p ds) : Silent p (cs ++ ds) := by
  intro before rest
  rw [List.append_assoc, hc, hd, List.reverse_append, List.append_assoc]

/-- A silent text has no split. -/
theorem Silent.sides_eq_nil (h : Silent p cs) (before : List Char) :
    sides p.symbol before (mark before 0 none cs) = [] := by
  have hsides := h before []
  rw [List.append_nil] at hsides
  rw [hsides]
  rfl

/-! ## Characters -/

/-- An operator does not start where nothing may stand. -/
theorem sides_unmarked (before : List Char) (c : Char) (rest : Marked) :
    sides p.symbol before ((c, false) :: rest) = sides p.symbol (c :: before) rest := by
  obtain ⟨s, symbol, hsymbol⟩ := List.exists_cons_of_ne_nil p.symbol_ne_nil
  rw [hsymbol]
  rfl

/-- An operator does not start with another character than its first. -/
theorem sides_of_head?_ne {c : Char} (hc : p.symbol.head? ≠ some c) (before : List Char)
    (marked : Bool) (rest : Marked) :
    sides p.symbol before ((c, marked) :: rest) = sides p.symbol (c :: before) rest := by
  cases marked with
  | false => exact sides_unmarked before c rest
  | true =>
    obtain ⟨s, symbol, hsymbol⟩ := List.exists_cons_of_ne_nil p.symbol_ne_nil
    rw [hsymbol] at hc ⊢
    have hs : s ≠ c := fun e => hc (congrArg some e)
    rw [sides, afterSymbol?, if_neg hs]

theorem mark_plain {c : Char} (hc : isPlain c = true) {before : List Char}
    (hslash : c ≠ '/' ∨ expectsPattern before = false) (rest : List Char) :
    mark before 0 none (c :: rest) = (c, true) :: mark (c :: before) 0 none rest := by
  simp only [isPlain, Bool.not_eq_true', Bool.or_eq_false_iff] at hc
  obtain ⟨⟨hopening, hclosing⟩, hquote⟩ := hc
  have hpattern : ¬(c = '/' ∧ 0 = 0 ∧ expectsPattern before = true) := by
    rintro ⟨rfl, -, hexpects⟩
    rcases hslash with hslash | hslash
    · exact hslash rfl
    · rw [hslash] at hexpects; cases hexpects
  rw [mark.eq_def]
  dsimp only
  rw [hquote, hopening, hclosing, if_neg Bool.false_ne_true, if_neg Bool.false_ne_true,
    if_neg Bool.false_ne_true, if_neg hpattern]
  rfl

theorem silent_singleton {c : Char} (hc : isPlain c = true) (hslash : c ≠ '/')
    (hhead : p.symbol.head? ≠ some c) : Silent p [c] := by
  intro before rest
  rw [List.singleton_append, mark_plain hc (.inl hslash), sides_of_head?_ne hhead]
  rfl

/-- Whether a character neither nests nor starts an operator or an anchor. -/
def isQuiet (c : Char) : Bool :=
  isPlain c && !(c ∈ ['|', '&', '!', '=', '<', '>', '+', '-', '*', '/', '%', '$', '@'])

theorem head?_symbol_ne {c : Char} (hc : isQuiet c = true) : p.symbol.head? ≠ some c := by
  intro h
  cases p with
  | operator op => cases op <;> (cases h; exact absurd hc (by decide))
  | selector anchor => cases anchor <;> (cases h; exact absurd hc (by decide))

/-- Only a subtraction starts with a hyphen. -/
theorem eq_sub_of_head?_symbol (h : p.symbol.head? = some '-') : p = .operator .sub := by
  cases p with
  | operator op => cases op <;> first | rfl | exact absurd h (by decide)
  | selector anchor => cases anchor <;> exact absurd h (by decide)

theorem silent_of_forall (h : ∀ c ∈ cs, isQuiet c = true) : Silent p cs := by
  induction cs with
  | nil => exact silent_nil
  | cons c cs ih =>
    have hc := h c List.mem_cons_self
    have hplain : isPlain c = true := (Bool.and_eq_true_iff.1 hc).1
    have hslash : c ≠ '/' := by
      rintro rfl
      exact absurd hc (by decide)
    exact (silent_singleton hplain hslash (head?_symbol_ne hc)).append
      (ih fun x hx => h x (List.mem_cons_of_mem _ hx))

theorem silent_of_all (h : cs.all isQuiet = true) : Silent p cs :=
  silent_of_forall (List.all_eq_true.1 h)

theorem isQuiet_of_isDigit {c : Char} (h : c.isDigit = true) : isQuiet c = true := by
  have hne {d : Char} (hd : d.isDigit = false) : c ≠ d := ne_of_isDigit h hd
  simp [isQuiet, isPlain_of_isDigit h, hne]

theorem isQuiet_of_isSpace {c : Char} (h : Unicode.isSpace c = true) : isQuiet c = true := by
  have hne {d : Char} (hd : Unicode.isSpace d = false) : c ≠ d := by
    rintro rfl
    rw [h] at hd
    cases hd
  simp [isQuiet, isPlain, isOpening, isClosing, isQuote, hne, Unicode.isSpace]

/-- Nothing is found in white space. -/
theorem silent_of_isBlank (h : Unicode.isBlank cs = true) : Silent p cs :=
  silent_of_forall fun c hc => isQuiet_of_isSpace (List.all_eq_true.1 h c hc)

/-! ## Brackets and quotes -/

/-- Inside brackets nothing is marked. -/
theorem sides_mark_of_run : ∀ {cs rest before : List Char} {q : Option Char} {n m : Nat},
    Counter.run .brackets ⟨n, .of q⟩ cs = some ⟨m, .outside⟩ →
    sides p.symbol before (mark before (n + 1) q (cs ++ rest)) =
      sides p.symbol (cs.reverse ++ before) (mark (cs.reverse ++ before) (m + 1) none rest)
  | [], rest, before, none, n, m, h => by cases h; rfl
  | [], rest, before, some q, n, m, h => by cases h
  | c :: cs, rest, before, none, n, m, h => by
    rw [Quoting.of, Counter.run_cons] at h
    rw [List.cons_append, mark.eq_def, List.reverse_cons, List.append_assoc, List.singleton_append]
    cases hc : isClosing c with
    | true =>
      have hq : isQuote c = false := Delimiters.brackets.isQuote_of_closes hc
      have ho : isOpening c = false := by
        cases ho : isOpening c with
        | false => rfl
        | true => rw [← hc]; exact Delimiters.brackets.closes_of_opens ho
      cases n with
      | zero => rw [Counter.step_closes_zero hc] at h; cases h
      | succ n =>
        rw [Counter.step_closes hc, Option.bind_some] at h
        simp only [hq, ho, hc, Bool.false_eq_true, if_false, if_true, sides_unmarked,
          Nat.add_sub_cancel]
        exact sides_mark_of_run (q := none) h
    | false =>
      rw [Counter.step_outside hc, Option.bind_some, Delimiters.brackets_opens] at h
      cases ho : isOpening c with
      | true =>
        have hq : isQuote c = false := Delimiters.brackets.isQuote_of_opens ho
        rw [ho, hq] at h
        simp only [hq, ho, Bool.false_eq_true, if_false, if_true, sides_unmarked]
        exact sides_mark_of_run (q := none) h
      | false =>
        cases hq : isQuote c with
        | true =>
          rw [ho, hq] at h
          simp only [hq, if_true, sides_unmarked]
          exact sides_mark_of_run h
        | false =>
          rw [ho, hq] at h
          simp only [hq, ho, hc, Bool.false_eq_true, if_false, Nat.succ_ne_zero, false_and, and_false,
            decide_false, sides_unmarked]
          exact sides_mark_of_run (q := none) h
  | c :: cs, rest, before, some q, n, m, h => by
    rw [Quoting.of, Counter.run_cons] at h
    rw [List.cons_append, mark.eq_def, List.reverse_cons, List.append_assoc, List.singleton_append]
    by_cases hc : c = '\\'
    · subst hc
      rw [Counter.step_backslash, Option.bind_some] at h
      cases cs with
      | nil => cases h
      | cons e cs =>
        rw [Counter.run_cons, Counter.step_escaped, Option.bind_some] at h
        simp only [List.cons_append, if_true, sides_unmarked, List.reverse_cons, List.append_assoc]
        exact sides_mark_of_run (q := some q) h
    · rw [Counter.step_inside hc, Option.bind_some] at h
      simp only [hc, if_false, sides_unmarked]
      exact sides_mark_of_run h

/-- A bracket with a closed text in it is silent. -/
theorem silent_group {o c : Char} (ho : isOpening o = true) (hc : isClosing c = true)
    (h : Closed .brackets cs) : Silent p (o :: (cs ++ [c])) := by
  intro before rest
  have hoq : isQuote o = false := Delimiters.brackets.isQuote_of_opens ho
  have hcq : isQuote c = false := Delimiters.brackets.isQuote_of_closes hc
  have hco : isOpening c = false := by
    cases hco : isOpening c with
    | false => rfl
    | true => rw [← hc]; exact Delimiters.brackets.closes_of_opens hco
  have hopen : mark before 0 none (o :: (cs ++ [c]) ++ rest) =
      (o, false) :: mark (o :: before) 1 none (cs ++ (c :: rest)) := by
    rw [List.cons_append, mark.eq_def]
    simp [hoq, ho]
  have hclose (before : List Char) : mark before 1 none (c :: rest) =
      (c, false) :: mark (c :: before) 0 none rest := by
    rw [mark.eq_def]
    simp [hcq, hco, hc]
  have hrun : Counter.run .brackets ⟨0, .of none⟩ cs = some ⟨0, .outside⟩ := h
  rw [hopen, sides_unmarked, sides_mark_of_run hrun, hclose, sides_unmarked]
  simp

theorem sides_mark_of_hidden {q : Char} (h : Hidden q cs) (before rest : List Char) :
    sides p.symbol before (mark before 0 (some q) (cs ++ rest)) =
      sides p.symbol (cs.reverse ++ before) (mark (cs.reverse ++ before) 0 (some q) rest) := by
  induction h generalizing before with
  | nil => rfl
  | escape c _ ih =>
    rw [List.cons_append, List.cons_append, mark.eq_def]
    simp only [if_true, sides_unmarked, List.reverse_cons, List.append_assoc, List.singleton_append]
    exact ih _
  | cons hb hq _ ih =>
    rw [List.cons_append, mark.eq_def]
    simp only [hb, hq, if_false, sides_unmarked, List.reverse_cons, List.append_assoc,
      List.singleton_append]
    exact ih _

/-- Inside quotes or a pattern nothing is marked, up to and with the character that ends them. -/
theorem sides_mark_of_hidden_closing {q : Char} (h : Hidden q cs) (hq : q ≠ '\\')
    (before rest : List Char) :
    sides p.symbol before (mark before 0 (some q) (cs ++ q :: rest)) =
      sides p.symbol (q :: (cs.reverse ++ before))
        (mark (q :: (cs.reverse ++ before)) 0 none rest) := by
  have hclose (before : List Char) : mark before 0 (some q) (q :: rest) =
      (q, false) :: mark (q :: before) 0 none rest := by
    rw [mark.eq_def]
    simp [hq]
  rw [sides_mark_of_hidden h, hclose, sides_unmarked]

/-- Text in quotes is silent. -/
theorem silent_of_hidden {q : Char} (h : Hidden q cs) (hq : isQuote q = true) :
    Silent p (q :: (cs ++ [q])) := by
  intro before rest
  have hb : q ≠ '\\' := by
    rintro rfl
    exact absurd hq (by decide)
  have hopen : mark before 0 none (q :: (cs ++ [q]) ++ rest) =
      (q, false) :: mark (q :: before) 0 (some q) (cs ++ (q :: rest)) := by
    rw [List.cons_append, mark.eq_def]
    simp [hq]
  rw [hopen, sides_unmarked, sides_mark_of_hidden_closing h hb]
  simp

/-- Nothing is found in a pattern, where one may stand. -/
theorem sides_pattern (h : Hidden '/' cs) {before : List Char}
    (hbefore : expectsPattern before = true) (rest : List Char) :
    sides p.symbol before (mark before 0 none (slashed cs ++ rest)) =
      sides p.symbol ((slashed cs).reverse ++ before)
        (mark ((slashed cs).reverse ++ before) 0 none rest) := by
  have hopen : mark before 0 none (slashed cs ++ rest) =
      ('/', false) :: mark ('/' :: before) 0 (some '/') (cs ++ '/' :: rest) := by
    rw [slashed, List.cons_append, mark.eq_def]
    simp [isQuote, isOpening, isClosing, hbefore]
  rw [hopen, sides_unmarked, sides_mark_of_hidden_closing h (by decide)]
  simp [slashed]

theorem sides_pattern_eq_nil (h : Hidden '/' cs) {before : List Char}
    (hbefore : expectsPattern before = true) :
    sides p.symbol before (mark before 0 none (slashed cs)) = [] := by
  have hsides := sides_pattern (p := p) h hbefore []
  rw [List.append_nil] at hsides
  rw [hsides]
  rfl

/-! ## Constants and selectors -/

/-- A hyphen behind the `e` of an exponent is no operator. -/
theorem silent_exponent {d e : Char} (hd : d.isDigit = true) (he : e = 'e' ∨ e = 'E') :
    Silent p [d, e, '-'] := by
  intro before rest
  have hplain : isPlain e = true := by rcases he with rfl | rfl <;> rfl
  have hquiet : isQuiet e = true := by rcases he with rfl | rfl <;> rfl
  have hslash {c : Char} (hc : isQuiet c = true) : c ≠ '/' := by
    rintro rfl
    exact absurd hc (by decide)
  have hmark : mark before 0 none ([d, e, '-'] ++ rest) =
      (d, true) :: (e, true) :: ('-', true) :: mark ('-' :: e :: d :: before) 0 none rest := by
    rw [List.cons_append, mark_plain (isPlain_of_isDigit hd) (.inl (hslash (isQuiet_of_isDigit hd))),
      List.cons_append, mark_plain hplain (.inl (hslash hquiet)), List.cons_append,
      mark_plain (by decide) (.inl (by decide))]
    rfl
  rw [hmark, sides_of_head?_ne (head?_symbol_ne (isQuiet_of_isDigit hd)),
    sides_of_head?_ne (head?_symbol_ne hquiet)]
  have hexponent : inExponent (e :: d :: before) = true := by
    rcases he with rfl | rfl <;> simp [inExponent, hd]
  by_cases hp : p.symbol.head? = some '-'
  · obtain rfl := eq_sub_of_head?_symbol hp
    simp [Priority.symbol, Operator.symbol, sides, afterSymbol?, standsAlone, hexponent]
  · exact sides_of_head?_ne hp _ _ _

theorem silent_digits (h : IsDigits cs) : Silent p cs :=
  silent_of_forall fun c hc => isQuiet_of_isDigit (h.isDigit c hc)

/-- The exponent of a number, with the digit before it. -/
theorem silent_lead {d : Char} (hd : d.isDigit = true) (lead : Int) :
    Silent p (d :: 'e' :: intText lead) := by
  by_cases hlead : 0 ≤ lead
  · have hfront : Silent p [d, 'e'] := silent_of_forall fun c hc => by
      rcases List.mem_cons.1 hc with rfl | hc
      · exact isQuiet_of_isDigit hd
      · rw [List.mem_singleton.1 hc]
        rfl
    exact hfront.append (silent_digits (isDigits_intText hlead))
  · obtain ⟨digits, htext, hdigits⟩ := exists_intText_eq_cons (n := lead) (by omega)
    rw [htext]
    exact (silent_exponent hd (.inl rfl)).append (silent_digits hdigits)

theorem silent_magnitude (h : IsMagnitude cs) : Silent p cs := by
  have hpoint : Silent p ['.'] := silent_of_all rfl
  cases h with
  | positional hwhole hfraction =>
    exact (silent_digits hwhole).append (hpoint.append (silent_digits hfraction))
  | exponential lead hwhole =>
    obtain ⟨front, d, rfl, hd⟩ := hwhole.exists_concat
    have hfront : Silent p front :=
      silent_of_forall fun c hc => isQuiet_of_isDigit (hwhole.isDigit c (List.mem_append_left _ hc))
    rw [List.append_assoc]
    exact hfront.append (silent_lead hd lead)
  | @exponentialPoint whole fraction lead hwhole hfraction =>
    obtain ⟨front, d, rfl, hd⟩ := hfraction.exists_concat
    have hfront : Silent p front :=
      silent_of_forall fun c hc =>
        isQuiet_of_isDigit (hfraction.isDigit c (List.mem_append_left _ hc))
    rw [List.append_assoc]
    exact (silent_digits hwhole).append (hpoint.append (hfront.append (silent_lead hd lead)))

/-- Nothing is found in a constant, unless it is a number with a minus sign. -/
theorem silent_literal {value : Literal} (hvalue : value.WellFormed)
    (hgrouped : (Expr.literal value).isGrouped = false) : Silent p value.text := by
  cases value with
  | null => exact silent_of_all rfl
  | bool b => cases b <;> exact silent_of_all rfl
  | integer n =>
    have hn : 0 ≤ n.toInt := by
      simp only [Expr.isGrouped, decide_eq_false_iff_not, Int64.not_lt] at hgrouped
      simpa using Int64.le_iff_toInt_le.1 hgrouped
    exact silent_digits (isDigits_intText hn)
  | float x =>
    obtain ⟨body, hbody, hwrite⟩ := exists_write_eq hvalue
    have hsign : isSignNegative x = false := hgrouped
    rw [Literal.text, hwrite, hsign, if_neg Bool.false_ne_true]
    exact silent_magnitude hbody
  | string s => exact silent_of_hidden (.flatMap hidden_escapeQuote _) rfl
  | json v =>
    obtain ⟨o, inner, c, htext, hends, hinner⟩ := Value.exists_text_of_isContainer hvalue
    show Silent p v.text
    rw [htext]
    rcases hends with ⟨rfl, rfl⟩ | ⟨rfl, rfl⟩
    · exact silent_group rfl rfl hinner.brackets
    · exact silent_group rfl rfl hinner.brackets

theorem silent_anchor (op : Operator) (anchor : Anchor) :
    Silent (.operator op) [anchor.symbol] := by
  have hplain : isPlain anchor.symbol = true := by cases anchor <;> rfl
  have hslash : anchor.symbol ≠ '/' := by cases anchor <;> decide
  refine silent_singleton hplain hslash ?_
  cases op <;> cases anchor <;> decide

theorem silent_segment {s : Segment} (h : s.Passes wellFormed) (op : Operator) :
    Silent (.operator op) s.text := by
  cases hb : s.isBracketed with
  | true =>
    obtain ⟨inner, htext, hinner⟩ := h.exists_inner hb
    rw [htext]
    exact silent_group rfl rfl hinner.brackets
  | false =>
    cases s with
    | root => exact silent_anchor op .root
    | current => exact silent_anchor op .current
    | descent | length => exact silent_of_all rfl
    | _ => cases hb

theorem silent_pathText {path : List Segment} (h : ∀ s ∈ path, s.Passes wellFormed)
    (op : Operator) : Silent (.operator op) (Segment.pathText path) := by
  induction path with
  | nil => exact silent_nil
  | cons s rest ih =>
    exact (silent_segment (h s List.mem_cons_self) op).append
      (ih fun x hx => h x (List.mem_cons_of_mem _ hx))

/-- No operator is found in an operand. -/
theorem silent_operandText {expr : Expr} (h : expr.Passes wellFormed) (op : Operator) :
    Silent (.operator op) expr.operandText := by
  unfold Expr.operandText
  cases hgrouped : expr.isGrouped with
  | true => exact silent_group rfl rfl h.balanced_text.brackets
  | false =>
    cases h with
    | literal hvalue => exact silent_literal hvalue hgrouped
    | selector _ _ hs hx => exact silent_pathText (fun s hmem => ⟨hs s hmem, hx s hmem⟩) op
    | unary => cases hgrouped
    | binary => cases hgrouped

/-! ## Operations -/

/-- Whether a character can stand beside an operator of numbers: white space, a digit or a minus
sign. -/
def isEdge (c : Char) : Bool :=
  Unicode.isSpace c || c.isDigit || c = '-'

theorem ne_of_isEdge {c d : Char} (hc : isEdge c = true) (hd : isEdge d = false) : c ≠ d := by
  rintro rfl
  rw [hc] at hd
  cases hd

/-- An operator between edges is found, and no other one is found in its place. -/
theorem sides_operator (op : Operator) {before : List Char} {rest : Marked}
    (hbefore : ∀ c ∈ before.head?, isEdge c = true)
    (hrest : ∀ x ∈ rest.head?, isEdge x.1 = true) :
    sides p.symbol before (op.symbol.map (·, true) ++ rest) =
      (if p = .operator op then [(before.reverse, rest.map Prod.fst)] else []) ++
        sides p.symbol (op.symbol.reverse ++ before) rest := by
  have hafter {s : Char} (hs : isEdge s = false) (symbol : List Char) :
      afterSymbol? (s :: symbol) rest = none := by
    cases rest with
    | nil => rfl
    | cons x rest =>
      obtain ⟨c, marked⟩ := x
      have hne : s ≠ c := (ne_of_isEdge (hrest _ rfl) hs).symm
      cases marked with
      | false => rfl
      | true => rw [afterSymbol?, if_neg hne]
  have hhead {s : Char} (hs : isEdge s = false) :
      (rest.map Prod.fst).head? ≠ some s ∧ before.head? ≠ some s := by
    refine ⟨fun h => ?_, fun h => ne_of_isEdge (hbefore s h) hs rfl⟩
    rw [List.head?_map, Option.map_eq_some_iff] at h
    obtain ⟨x, hx, rfl⟩ := h
    exact ne_of_isEdge (hrest x hx) hs rfl
  have hexponent : inExponent before = false := by
    unfold inExponent
    split
    · next e d _ =>
      have hne {s : Char} (hs : isEdge s = false) : e ≠ s := ne_of_isEdge (hbefore e rfl) hs
      have he : e ≠ 'e' := hne (by decide)
      have hE : e ≠ 'E' := hne (by decide)
      simp [he, hE]
    · rfl
  -- what could make a longer operator of this one
  have hequals := @hafter '=' (by decide)
  have hbar := @hafter '|' (by decide)
  have hampersand := @hafter '&' (by decide)
  have hstar := @hafter '*' (by decide)
  have htilde := @hafter '~' (by decide)
  -- what `standsAlone` looks for
  have hnoEquals := (@hhead '=' (by decide)).1
  have hnoStar := @hhead '*' (by decide)
  have hnoPoint := (@hhead '.' (by decide)).2
  cases p with
  | operator q =>
    cases op <;> cases q <;>
      simp [Priority.symbol, Operator.symbol, sides, afterSymbol?, standsAlone, -List.head?_map, *]
  | selector anchor =>
    cases op <;> cases anchor <;>
      simp [Priority.symbol, Operator.symbol, Anchor.symbol, sides, afterSymbol?]

/-- An operator between blanks is found, and no other one is found in its place. -/
theorem sides_symbol (op q : Operator) (before : List Char) (rest : Marked) :
    sides (Priority.operator q).symbol (' ' :: before)
        (op.symbol.map (·, true) ++ (' ', true) :: rest) =
      (if q = op then [((' ' :: before).reverse, ' ' :: rest.map Prod.fst)] else []) ++
        sides (Priority.operator q).symbol (' ' :: (op.symbol.reverse ++ ' ' :: before)) rest := by
  have hspace : (Priority.operator q).symbol.head? ≠ some ' ' := head?_symbol_ne (by decide)
  have hedge : isEdge ' ' = true := by decide
  have hfound := @sides_operator (.operator q) op (' ' :: before) ((' ', true) :: rest)
    (fun c hc => by cases hc; exact hedge) (fun x hx => by cases hx; exact hedge)
  simp only [Priority.operator.injEq] at hfound
  rw [hfound, sides_of_head?_ne hspace]
  rfl

theorem mark_symbol (op : Operator) {before : List Char} (h : expectsPattern before = false)
    (rest : List Char) : mark before 0 none (op.symbol ++ rest) =
      op.symbol.map (·, true) ++ mark (op.symbol.reverse ++ before) 0 none rest := by
  cases op with
  | div => exact mark_plain rfl (.inr h) rest
  | not | lt | gt | add | sub | mul | mod => exact mark_plain rfl (.inl (by decide)) rest
  | or | and | eq | ne | le | ge | matchPattern | pow =>
    rw [Operator.symbol, List.cons_append, mark_plain rfl (.inl (by decide)), List.cons_append,
      mark_plain rfl (.inl (by decide))]
    rfl

/-- No pattern is expected behind something that is neither white space nor a tilde. -/
theorem expectsPattern_of_isBlank {blank : List Char} {d : Char} (h : Unicode.isBlank blank = true)
    (hspace : Unicode.isSpace d = false) (htilde : d ≠ '~') (before : List Char) :
    expectsPattern (blank ++ d :: before) = false := by
  have htrim : Unicode.trimStart (blank ++ d :: before) = d :: before := by
    rw [Unicode.trimStart, List.dropWhile_append_of_pos (List.all_eq_true.1 h),
      List.dropWhile_cons_of_neg (by simp [hspace])]
  rw [expectsPattern, htrim]
  split
  · next he => exact absurd (List.cons.inj he).1 htilde
  · rfl

/-- No pattern is expected behind an operand and a blank. -/
theorem expectsPattern_reverse (h : HasEnds cs) (before : List Char) :
    expectsPattern (' ' :: (cs.reverse ++ before)) = false := by
  obtain ⟨d, hlast, hd⟩ := h.last
  obtain ⟨front, rfl⟩ := List.getLast?_eq_some_iff.1 hlast
  have htilde : d ≠ '~' := by
    rintro rfl
    exact absurd hd (by decide)
  have hblank : Unicode.isBlank [' '] = true := rfl
  rw [List.reverse_append]
  exact expectsPattern_of_isBlank hblank (isSpace_of_isEnd hd) htilde _

variable {left right : List Char}

/-- Behind an operand only the operator is found, and then whatever is found behind that. -/
theorem sides_operation {q : Operator} (hends : HasEnds left) (hleft : Silent (.operator q) left)
    (op : Operator) (before right : List Char) :
    sides (Priority.operator q).symbol before
        (mark before 0 none (left ++ ' ' :: (op.symbol ++ ' ' :: right))) =
      (if q = op then [(before.reverse ++ (left ++ [' ']), ' ' :: right)] else []) ++
        sides (Priority.operator q).symbol
          (' ' :: (op.symbol.reverse ++ ' ' :: (left.reverse ++ before)))
          (mark (' ' :: (op.symbol.reverse ++ ' ' :: (left.reverse ++ before))) 0 none right) := by
  have hspace : (Priority.operator q).symbol.head? ≠ some ' ' := head?_symbol_ne (by decide)
  have hblank (before rest : List Char) :
      mark before 0 none (' ' :: rest) = (' ', true) :: mark (' ' :: before) 0 none rest :=
    mark_plain rfl (.inl (by decide)) rest
  rw [hleft, hblank, sides_of_head?_ne hspace, mark_symbol op (expectsPattern_reverse hends before),
    hblank, sides_symbol, map_fst_mark]
  simp

/-- A binary operation is silent for every other operator that is not found in its operands. -/
theorem Silent.operation {op q : Operator} (hends : HasEnds left)
    (hleft : Silent (.operator q) left) (hop : q ≠ op) (hright : Silent (.operator q) right) :
    Silent (.operator q) (left ++ ' ' :: (op.symbol ++ ' ' :: right)) := by
  intro before rest
  have hsides := sides_operation hends hleft op before (right ++ rest)
  rw [if_neg hop, List.nil_append, hright] at hsides
  simpa using hsides

/-- A match with a pattern is silent for every other operator that is not found on its left. -/
theorem Silent.match_pattern {q : Operator} (hends : HasEnds left)
    (hleft : Silent (.operator q) left) (hq : q ≠ .matchPattern) (hpattern : Hidden '/' right) :
    Silent (.operator q) (left ++ ' ' :: (Operator.matchPattern.symbol ++ ' ' :: slashed right)) := by
  intro before rest
  have hsides := sides_operation hends hleft .matchPattern before (slashed right ++ rest)
  rw [if_neg hq, List.nil_append, sides_pattern hpattern rfl] at hsides
  simpa using hsides

/-- In a binary operation nothing but the operator is found. -/
theorem sides_binary (hends : HasEnds left) (hleft : ∀ q : Operator, Silent (.operator q) left)
    (hright : ∀ q : Operator, Silent (.operator q) right) (op q : Operator) :
    sides (Priority.operator q).symbol []
        (mark [] 0 none (left ++ ' ' :: (op.symbol ++ ' ' :: right))) =
      if q = op then [(left ++ [' '], ' ' :: right)] else [] := by
  rw [sides_operation hends (hleft q), (hright q).sides_eq_nil, List.append_nil]
  rfl

/-- In a match with a pattern nothing but the operator is found. -/
theorem sides_match (hends : HasEnds left) (hleft : ∀ q : Operator, Silent (.operator q) left)
    (hpattern : Hidden '/' right) (q : Operator) :
    sides (Priority.operator q).symbol []
        (mark [] 0 none (left ++ ' ' :: (Operator.matchPattern.symbol ++ ' ' :: slashed right))) =
      if q = .matchPattern then [(left ++ [' '], ' ' :: slashed right)] else [] := by
  rw [sides_operation hends (hleft q), sides_pattern_eq_nil hpattern rfl, List.append_nil]
  rfl

/-- In a negation nothing but the operator is found. -/
theorem sides_unary {c : Char} {rest : List Char} (hc : c ≠ '=')
    (h : ∀ q : Operator, Silent (.operator q) (c :: rest)) (q : Operator) :
    sides (Priority.operator q).symbol [] (mark [] 0 none ('!' :: c :: rest)) =
      if q = .not then [([], c :: rest)] else [] := by
  have hnil := (h q).sides_eq_nil ['!']
  have hfst := map_fst_mark ['!'] 0 none (c :: rest)
  rw [mark_plain rfl (.inl (by decide))]
  -- the operand does not start with `=`, so that the mark is not read as `!=`
  obtain ⟨marked, tail, htail⟩ : ∃ marked tail,
      mark ['!'] 0 none (c :: rest) = (c, marked) :: tail := by
    cases hmark : mark ['!'] 0 none (c :: rest) with
    | nil => rw [hmark] at hfst; cases hfst
    | cons x tail =>
      rw [hmark] at hfst
      cases hfst
      exact ⟨x.2, tail, rfl⟩
  rw [htail] at hnil hfst ⊢
  have hne : ¬('=' = c) := fun e => hc e.symm
  rw [sides, hnil]
  cases q <;> cases marked <;>
    simp_all [Priority.symbol, Operator.symbol, afterSymbol?, standsAlone]

/-- The only split of a constant is before its number, if that has a minus sign. -/
theorem eq_of_mem_sides_literal {value : Literal} (hvalue : value.WellFormed)
    (h : (left, right) ∈ sides p.symbol [] (mark [] 0 none value.text)) :
    p = .operator .sub ∧ left = [] := by
  have hminus {body : List Char} (htext : value.text = '-' :: body) (hbody : Silent p body) :
      p = .operator .sub ∧ left = [] := by
    have hnil := hbody.sides_eq_nil ['-']
    have hplain : isPlain '-' = true := rfl
    rw [htext, mark_plain hplain (.inl (by decide))] at h
    by_cases hp : p.symbol.head? = some '-'
    · obtain rfl := eq_sub_of_head?_symbol hp
      rw [Priority.symbol, Operator.symbol] at h hnil
      rw [sides, hnil] at h
      exact ⟨rfl, (Prod.mk.inj (List.mem_singleton.1 h)).1⟩
    · rw [sides_of_head?_ne hp, hnil] at h
      cases h
  cases hgrouped : (Expr.literal value).isGrouped with
  | false =>
    rw [(silent_literal hvalue hgrouped).sides_eq_nil] at h
    cases h
  | true =>
    cases value with
    | integer n =>
      have hn : n.toInt < 0 := by
        simpa [Expr.isGrouped, Int64.lt_iff_toInt_lt] using hgrouped
      obtain ⟨digits, htext, hdigits⟩ := exists_intText_eq_cons hn
      exact hminus htext (silent_digits hdigits)
    | float x =>
      obtain ⟨body, hbody, hwrite⟩ := exists_write_eq hvalue
      have hsign : isSignNegative x = true := hgrouped
      rw [hsign, if_pos rfl] at hwrite
      exact hminus hwrite (silent_magnitude hbody)
    | null | bool | string | json => cases hgrouped

/-- An anchor is found at the front of a text. -/
theorem sides_anchor (anchor : Anchor) (rest : List Char) :
    sides (Priority.selector anchor).symbol [] (mark [] 0 none (anchor.symbol :: rest)) =
      ([], rest) :: sides (Priority.selector anchor).symbol [anchor.symbol]
        (mark [anchor.symbol] 0 none rest) := by
  have hplain : isPlain anchor.symbol = true := by cases anchor <;> rfl
  have hslash : anchor.symbol ≠ '/' := by cases anchor <;> decide
  rw [mark_plain hplain (.inl hslash)]
  cases anchor <;>
    simp [Priority.symbol, Anchor.symbol, sides, afterSymbol?, standsAlone, map_fst_mark]

/-! ## The usual search order -/

/-- The operators in the usual search order. -/
def inOrder : List Operator :=
  [.or, .and, .eq, .ne, .le, .ge, .lt, .gt, .matchPattern, .not, .add, .sub, .pow, .mul, .div, .mod]

/-- The anchors in the usual search order. -/
def anchors : List Priority :=
  [.selector .root, .selector .current]

theorem flatMap_inOrder {α : Type} {f : Operator → List α} (op : Operator)
    (h : ∀ q, q ≠ op → f q = []) : inOrder.flatMap f = f op := by
  have hmem : op ∈ inOrder := by cases op <;> decide
  have hnodup : inOrder.Nodup := by decide
  obtain ⟨front, back, horder⟩ := List.append_of_mem hmem
  rw [horder] at hnodup ⊢
  obtain ⟨-, htail, hdisjoint⟩ := List.nodup_append.1 hnodup
  have hfront : front.flatMap f = [] :=
    List.flatMap_eq_nil_iff.2 fun q hq => h q (hdisjoint q hq op List.mem_cons_self)
  have hback : back.flatMap f = [] :=
    List.flatMap_eq_nil_iff.2 fun q hq => h q fun e => (List.nodup_cons.1 htail).1 (e ▸ hq)
  rw [List.flatMap_append, List.flatMap_cons, hfront, hback, List.nil_append, List.append_nil]

theorem candidates_default (cs : List Char) : candidates Priority.default cs =
    (inOrder.flatMap fun q => (sides (Priority.operator q).symbol [] (mark [] 0 none cs)).map
      (.operator q, ·)) ++ candidates anchors cs := by
  have hdefault : Priority.default = inOrder.map .operator ++ anchors := rfl
  rw [candidates, hdefault, List.flatMap_append, List.flatMap_map]
  rfl

/-- If a single operator is found, and once only, then it comes first. -/
theorem candidates_default_of_sides {op : Operator} {split : List Char × List Char}
    (h : ∀ q, sides (Priority.operator q).symbol [] (mark [] 0 none cs) =
      if q = op then [split] else []) :
    candidates Priority.default cs = (.operator op, split) :: candidates anchors cs := by
  rw [candidates_default, flatMap_inOrder op fun q hq => by rw [h q, if_neg hq]; rfl, h op, if_pos rfl]
  rfl

theorem candidates_default_of_silent (h : ∀ q : Operator, Silent (.operator q) cs) :
    candidates Priority.default cs = candidates anchors cs := by
  rw [candidates_default, List.flatMap_eq_nil_iff.2 fun q _ => by rw [(h q).sides_eq_nil]; rfl,
    List.nil_append]

theorem exists_of_mem_candidates_anchors {x : Priority × List Char × List Char}
    (h : x ∈ candidates anchors cs) : ∃ anchor, x.1 = .selector anchor := by
  simp only [candidates, List.mem_flatMap, List.mem_map] at h
  obtain ⟨q, hq, split, -, rfl⟩ := h
  simp only [anchors, List.mem_cons, List.not_mem_nil, or_false] at hq
  rcases hq with rfl | rfl
  · exact ⟨_, rfl⟩
  · exact ⟨_, rfl⟩

end PathQuery.Split
