import PathQuery.Expr.Build
import PathQuery.Proofs.SegmentText

/-!
# White space in brackets

The members of a union and the ends of a slice may have white space around them. A lenient reader
passes over it and finds what would be there without it. A strict reader faults as soon as it meets
white space, wherever between the brackets that is, but not within the quotes of a key.
-/

namespace PathQuery

open Number Text Unicode Outcome

/-- The quotes in which a key can stand. -/
inductive Mark where
  | single
  | double
deriving DecidableEq, Repr

/-- The character at both ends of a quoted key. -/
def Mark.char : Mark → Char
  | .single => '\''
  | .double => '"'

/-- An integer as it is written, be it with a sign or with zeros in front. -/
structure IntegerText where
  text : List Char
  value : Int64
  reads : readInt64 text = some value

/-- An index or a key as it is written. -/
inductive Written where
  | index (n : IntegerText)
  | key (mark : Mark) (name : String)

/-- Something that has white space on both sides, which may be empty. -/
structure Spaced (α : Type) where
  before : List Char
  item : α
  after : List Char
  isBlank_before : isBlank before = true
  isBlank_after : isBlank after = true

/-- A union of two members or more, or a slice with two or three slots, as it is written. -/
inductive BracketText where
  | union (first second : Spaced Written) (rest : List (Spaced Written))
  | range (start stop : Spaced (Option IntegerText)) (step : Option (Spaced (Option IntegerText)))

namespace Written

/-- The text of an index or a key; in a key its own kind of quote has a backslash in front, and so
has a backslash. -/
def text : Written → List Char
  | .index n => n.text
  | .key mark name => mark.char :: (name.toList.flatMap (escapeFor mark.char) ++ [mark.char])

/-- The argument that is read. -/
def argument : Written → Argument
  | .index n => .bare n.text
  | .key _ name => .quoted name.toList

/-- The member of a union that is written. -/
def member : Written → Member
  | .index n => .index n.value
  | .key _ name => .key name

end Written

namespace Spaced

variable {α β : Type}

/-- Something else with the same white space around it. -/
def map (f : α → β) (s : Spaced α) : Spaced β :=
  { s with item := f s.item }

/-- Whether there is no white space. -/
def isTight (s : Spaced α) : Bool :=
  s.before.isEmpty && s.after.isEmpty

/-- The text between two separators. -/
def text (s : Spaced (Option Written)) : List Char :=
  s.before ++ (s.item.elim [] Written.text ++ s.after)

end Spaced

namespace BracketText

/-- What stands between the separators. -/
def slots : BracketText → List (Spaced (Option Written))
  | .union first second rest => (first :: second :: rest).map (Spaced.map some)
  | .range start stop step => (start :: stop :: step.toList).map (Spaced.map (Option.map .index))

/-- The separator. -/
def separator : BracketText → Char
  | .union _ _ _ => ','
  | .range _ _ _ => ':'

/-- The word that is read. -/
def word (t : BracketText) : List Char :=
  bracketed ([t.separator].intercalate (t.slots.map Spaced.text))

/-- Whether there is no white space between the brackets other than in keys. -/
def isTight (t : BracketText) : Bool :=
  t.slots.all Spaced.isTight

/-- The segment that is written. -/
def segment : BracketText → Segment
  | .union first second rest =>
    .union ((first :: second :: rest).map fun s => s.item.member)
  | .range start stop step =>
    .range (start.item.map fun n => .literal n.value) (stop.item.map fun n => .literal n.value)
      ((step.bind Spaced.item).map fun n => .literal n.value)

end BracketText

/-! ## One slot -/

theorem Mark.isQuote_char (mark : Mark) : isQuote mark.char = true := by
  cases mark <;> rfl

theorem Mark.char_ne (mark : Mark) : mark.char ≠ '\\' ∧ mark.char ≠ '?' := by
  cases mark <;> decide

namespace Argument

theorem isBare_of_readNat {cs : List Char} (h : readNat cs ≠ none) :
    cs ≠ [] ∧ ∀ c ∈ cs, isBare c = true := by
  refine ⟨fun hnil => h (by rw [hnil]; rfl), fun c hc => isBare_of_isDigit ?_⟩
  by_contra hdigit
  exact h (readNat_eq_none_of_mem hc (Bool.eq_false_iff.2 hdigit))

theorem wellFormed_integerText (n : IntegerText) : WellFormed (.bare n.text) := by
  obtain ⟨k, hk, -⟩ := Option.bind_eq_some_iff.1 n.reads
  have hsigned {sign : Char} {cs : List Char} (hsign : isBare sign = true)
      (hread : readNat cs ≠ none) : WellFormed (.bare (sign :: cs)) :=
    ⟨List.cons_ne_nil sign cs, List.forall_mem_cons.2 ⟨hsign, (isBare_of_readNat hread).2⟩⟩
  unfold readInt at hk
  split at hk
  · next htext => exact htext ▸ hsigned rfl fun hnone => by rw [hnone] at hk; cases hk
  · next htext => exact htext ▸ hsigned rfl fun hnone => by rw [hnone] at hk; cases hk
  · exact isBare_of_readNat fun hnone => by rw [hnone] at hk; cases hk

variable {lenient : Bool} {segment : String}

theorem isSpace_ne {c : Char} (h : isSpace c = true) :
    c ≠ '(' ∧ isQuote c = false ∧ ¬(c = ':' ∨ c = ',') ∧ c ≠ '?' := by
  have hne (d : Char) (hd : isSpace d = false) : c ≠ d := fun e => by rw [e, hd] at h; cases h
  simp [isQuote, hne '(' rfl, hne '\'' rfl, hne '"' rfl, hne ':' rfl, hne ',' rfl, hne '?' rfl]

/-- A strict reader does not get past white space. -/
theorem split_strict_space {c : Char} (h : isSpace c = true) (held : Option Argument)
    (closed : Bool) (rest : List Char) :
    split false segment held closed (c :: rest) = .error (.unexpectedSpace segment) := by
  obtain ⟨hopen, hquote, hseparator, -⟩ := isSpace_ne h
  rw [split.eq_def]
  simp only [hopen, hquote, hseparator, h, Bool.false_eq_true, if_false, if_true]

theorem split_strict_blank {blank : List Char} (h : isBlank blank = true) (hne : blank ≠ [])
    (held : Option Argument) (closed : Bool) (rest : List Char) :
    split false segment held closed (blank ++ rest) = .error (.unexpectedSpace segment) := by
  obtain ⟨c, cs, rfl⟩ := List.exists_cons_of_ne_nil hne
  exact split_strict_space (List.all_eq_true.1 h c List.mem_cons_self) held closed (cs ++ rest)

/-- A lenient reader passes over white space, which only closes the argument in front of it. -/
theorem split_lenient_blank {blank : List Char} (h : isBlank blank = true)
    (held : Option Argument) (closed : Bool) (rest : List Char) :
    split true segment held closed (blank ++ rest) =
      split true segment held (if blank.isEmpty then closed else held.isSome) rest := by
  induction blank generalizing closed with
  | nil => rfl
  | cons c cs ih =>
    obtain ⟨hc, hcs⟩ := List.forall_mem_cons.1 (List.all_eq_true.1 h)
    obtain ⟨hopen, hquote, hseparator, -⟩ := isSpace_ne hc
    rw [List.cons_append, split.eq_def]
    simp only [hopen, hquote, hseparator, hc, Bool.false_eq_true, if_false, if_true]
    rw [ih (List.all_eq_true.2 hcs), ite_self]
    rfl

theorem split_written (w : Written) (rest : List Char) :
    split lenient segment none false (w.text ++ rest) =
      split lenient segment (some w.argument) w.argument.isComplete rest := by
  cases w with
  | index n => exact split_text (wellFormed_integerText n) rest
  | key mark name =>
    have htext : (Written.key mark name).text ++ rest =
        mark.char :: (name.toList.flatMap (escapeFor mark.char) ++ mark.char :: rest) := by
      simp [Written.text]
    rw [htext]
    exact split_quoted mark.isQuote_char (readKey_escaped mark.char_ne.1 name.toList rest)

theorem split_item (item : Option Written) (rest : List Char) :
    ∃ closed, split lenient segment none false (item.elim [] Written.text ++ rest) =
      split lenient segment (item.map Written.argument) closed rest := by
  cases item with
  | none => exact ⟨false, rfl⟩
  | some w => exact ⟨_, split_written w rest⟩

/-- What stands between two separators is found if the reader is lenient or if there is no white
space. -/
theorem split_slot {s : Spaced (Option Written)} (h : (lenient || s.isTight) = true)
    (rest : List Char) : ∃ closed, split lenient segment none false (s.text ++ rest) =
      split lenient segment (s.item.map Written.argument) closed rest := by
  obtain ⟨closed, hitem⟩ := @split_item lenient segment s.item (s.after ++ rest)
  rw [Spaced.text, List.append_assoc, List.append_assoc]
  cases lenient with
  | true =>
    rw [split_lenient_blank s.isBlank_before, Option.isSome_none, ite_self, hitem,
      split_lenient_blank s.isBlank_after]
    exact ⟨_, rfl⟩
  | false =>
    obtain ⟨hbefore, hafter⟩ : s.before = [] ∧ s.after = [] := by
      simpa [Spaced.isTight] using h
    rw [hbefore, List.nil_append, hitem, hafter]
    exact ⟨closed, rfl⟩

theorem split_slot_strict {s : Spaced (Option Written)} (h : s.isTight = false)
    (rest : List Char) :
    split false segment none false (s.text ++ rest) = .error (.unexpectedSpace segment) := by
  rw [Spaced.text, List.append_assoc, List.append_assoc]
  by_cases hbefore : s.before = []
  · have hafter : s.after ≠ [] := by
      simpa [Spaced.isTight, hbefore] using h
    obtain ⟨closed, hitem⟩ := @split_item false segment s.item (s.after ++ rest)
    rw [hbefore, List.nil_append, hitem]
    exact split_strict_blank s.isBlank_after hafter _ closed rest
  · exact split_strict_blank s.isBlank_before hbefore none false _

/-- The splitter finds what stands in the slots, or meets white space in one of them. -/
theorem split_slots {separator : Char} (hsep : separator = ':' ∨ separator = ',')
    (slot : Spaced (Option Written)) (rest : List (Spaced (Option Written))) :
    split lenient segment none false ([separator].intercalate ((slot :: rest).map Spaced.text)) =
      if lenient || (slot :: rest).all Spaced.isTight then
        .ok ((slot :: rest).map fun s => s.item.map Written.argument,
          List.replicate rest.length separator)
      else .error (.unexpectedSpace segment) := by
  induction rest generalizing slot with
  | nil =>
    rw [List.map_singleton, List.intercalate_singleton, List.all_cons, List.all_nil, Bool.and_true,
      ← List.append_nil slot.text]
    split
    · next h =>
      obtain ⟨closed, hslot⟩ := @split_slot lenient segment slot h []
      rw [hslot, split.eq_def]
      rfl
    · next h =>
      obtain ⟨rfl, htight⟩ : lenient = false ∧ slot.isTight = false := by simpa using h
      exact split_slot_strict htight []
  | cons next rest ih =>
    rw [List.map_cons, List.map_cons, List.intercalate_cons_cons, ← List.map_cons,
      List.append_assoc, List.singleton_append, List.all_cons]
    by_cases h : (lenient || slot.isTight) = true
    · obtain ⟨closed, hslot⟩ := @split_slot lenient segment slot h
        (separator :: [separator].intercalate ((next :: rest).map Spaced.text))
      have htail : (lenient || (slot.isTight && (next :: rest).all Spaced.isTight)) =
          (lenient || (next :: rest).all Spaced.isTight) := by
        rw [Bool.or_and_distrib_left, h, Bool.true_and]
      rw [hslot, split_separator hsep, ih, htail]
      split <;> rfl
    · obtain ⟨rfl, htight⟩ : lenient = false ∧ slot.isTight = false := by simpa using h
      rw [split_slot_strict htight, htight]
      rfl

/-! ## No filter -/

theorem head?_blank_append_ne {blank rest : List Char} (h : isBlank blank = true)
    (hrest : rest.head? ≠ some '?') : (blank ++ rest).head? ≠ some '?' := by
  cases blank with
  | nil => exact hrest
  | cons c cs =>
    have hc := (isSpace_ne (List.all_eq_true.1 h c List.mem_cons_self)).2.2.2
    exact fun e => hc (Option.some.inj e)

theorem head?_slot_append_ne (s : Spaced (Option Written)) {rest : List Char}
    (hrest : rest.head? ≠ some '?') : (s.text ++ rest).head? ≠ some '?' := by
  have hafter := head?_blank_append_ne s.isBlank_after hrest
  rw [Spaced.text, List.append_assoc, List.append_assoc]
  refine head?_blank_append_ne s.isBlank_before ?_
  cases s.item with
  | none => exact hafter
  | some w =>
    cases w with
    | index n => exact head?_text_ne (wellFormed_integerText n) _
    | key mark name => exact fun e => mark.char_ne.2 (Option.some.inj e)

theorem head?_slots_ne {separator : Char} (hsep : separator ≠ '?') (slot : Spaced (Option Written))
    (rest : List (Spaced (Option Written))) :
    ([separator].intercalate ((slot :: rest).map Spaced.text)).head? ≠ some '?' := by
  cases rest with
  | nil =>
    rw [List.map_singleton, List.intercalate_singleton, ← List.append_nil slot.text]
    exact head?_slot_append_ne slot nofun
  | cons next rest =>
    rw [List.map_cons, List.map_cons, List.intercalate_cons_cons, List.append_assoc]
    exact head?_slot_append_ne slot fun e => hsep (Option.some.inj e)

end Argument

/-! ## The whole word -/

namespace Segment

variable {build : ExprBuilder} {word : String}

theorem memberOfArgument_written (w : Written) :
    memberOfArgument build word (some w.argument) = .ok w.member := by
  cases w with
  | index n =>
    rw [Written.argument, memberOfArgument, n.reads]
    rfl
  | key mark name =>
    rw [Written.argument, memberOfArgument, String.ofList_toList]
    rfl

theorem boundOfArgument_written (n : Option IntegerText) :
    boundOfArgument build word ((n.map .index).map Written.argument) =
      .ok (n.map fun n => .literal n.value) := by
  cases n with
  | none => rfl
  | some n =>
    rw [Option.map_some, Option.map_some, Written.argument, boundOfArgument, n.reads]
    rfl

theorem mapM_memberOfArgument_written (slots : List (Spaced Written)) :
    ((slots.map (Spaced.map some)).map fun s => s.item.map Written.argument).mapM
      (memberOfArgument build word) = .ok (slots.map fun s => s.item.member) := by
  rw [List.map_map, List.mapM_map]
  refine (mapM_congr fun s _ => memberOfArgument_written s.item).trans ?_
  exact List.mapM_pure

/-- The arguments in the slots are those of the segment that is written. -/
theorem ofArguments_slots (t : BracketText) :
    ofArguments build word (t.slots.map fun s => s.item.map Written.argument)
      (List.replicate (t.slots.length - 1) t.separator) = .ok t.segment := by
  cases t with
  | union first second rest =>
    have hlength : (BracketText.union first second rest).slots.length - 1 ≠ 0 := by
      simp [BracketText.slots]
    rw [BracketText.separator, ofArguments_commas hlength, BracketText.slots,
      mapM_memberOfArgument_written]
    rfl
  | range start stop step =>
    have hbound (s : Spaced (Option IntegerText)) :
        boundOfArgument build word ((s.map (Option.map .index)).item.map Written.argument) =
          .ok (s.item.map fun n => .literal n.value) :=
      boundOfArgument_written s.item
    cases step with
    | none =>
      show ([start, stop].mapM fun s => boundOfArgument build word
        ((s.map (Option.map .index)).item.map Written.argument)) >>= (fun bounds =>
          Except.ok (range bounds[0]?.join bounds[1]?.join bounds[2]?.join)) = _
      simp only [List.mapM_cons, List.mapM_nil, hbound]
      rfl
    | some step =>
      show ([start, stop, step].mapM fun s => boundOfArgument build word
        ((s.map (Option.map .index)).item.map Written.argument)) >>= (fun bounds =>
          Except.ok (range bounds[0]?.join bounds[1]?.join bounds[2]?.join)) = _
      simp only [List.mapM_cons, List.mapM_nil, hbound]
      rfl

/-- What is written in brackets is read, unless the reader is strict and there is white space. -/
theorem ofWord_bracketText {lenient : Bool} (t : BracketText) :
    ofWord lenient build t.word =
      if lenient || t.isTight then .ok t.segment
      else .error (.unexpectedSpace (String.ofList t.word)) := by
  have hsep : t.separator = ':' ∨ t.separator = ',' := by
    cases t <;> simp [BracketText.separator]
  have hmark : t.separator ≠ '?' := by
    rcases hsep with e | e <;> rw [e] <;> decide
  obtain ⟨slot, rest, hslots⟩ : ∃ slot rest, t.slots = slot :: rest := by
    cases t <;> exact ⟨_, _, rfl⟩
  have harguments := @ofArguments_slots build (String.ofList t.word) t
  have hhead := Argument.head?_slots_ne hmark slot rest
  rw [hslots] at harguments
  rw [BracketText.word, hslots] at harguments ⊢
  rw [bracketed, ofWord, ofBracket, List.getLast?_concat, if_pos rfl, List.dropLast_concat]
  split
  · next clause hclause => exact absurd (congrArg List.head? hclause) hhead
  · rw [Argument.split_slots hsep, BracketText.isTight, hslots]
    split
    · exact harguments
    · rfl

/-- However the members of a list or the ends of a slice are spaced, a lenient reader finds just
them. A strict reader does so if there is no white space at all, and faults otherwise. -/
theorem ofText_bracketText (settings : Settings) (t : BracketText) :
    Segment.ofText settings (String.ofList t.word) =
      if settings.lenient || t.isTight then .ok t.segment
      else .error (.unexpectedSpace (String.ofList t.word)) := by
  rw [Segment.ofText, String.toList_ofList]
  exact ofWord_bracketText t

/-- Blanks and a tab around an index and a key with a comma and quotes in it. -/
theorem ofText_bracketText_of_spaced :
    Segment.ofText { lenient := true } "[ -1,\"a,\\\"b\"\t]" =
      .ok (.union [.index (-1), .key "a,\"b"]) ∧
    Segment.ofText .standard "[ -1,\"a,\\\"b\"\t]" =
      .error (.unexpectedSpace "[ -1,\"a,\\\"b\"\t]") := by
  have hread (settings : Settings) := ofText_bracketText settings
    (.union ⟨[' '], .index ⟨['-', '1'], -1, by decide⟩, [], rfl, rfl⟩
      ⟨[], .key .double "a,\"b", ['\t'], rfl, rfl⟩ [])
  exact ⟨hread { lenient := true }, hread .standard⟩

end Segment

end PathQuery
