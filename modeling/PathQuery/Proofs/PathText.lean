import Mathlib.Data.List.Chain
import PathQuery.Expr.Build
import PathQuery.Proofs.SegmentText

/-!
# Cutting the text of a path

The text of a path is cut into the words of its segments, unless an anchor inside the path stands
right behind another anchor or behind `.length`: these run on into it, and fewer words come out
than the path has segments.
-/

namespace PathQuery

open Text Unicode Outcome

/-- Whether a text can go on behind a word: it is empty or starts with a dot or a bracket. -/
def Words.Continues (cs : List Char) : Prop :=
  ∀ c ∈ cs.head?, c = '.' ∨ c = '['

theorem Words.Continues.isNameChar_eq {cs : List Char} (h : Continues cs) :
    ∀ c ∈ cs.head?, isNameChar c = false := by
  intro c hc
  rcases h c hc with rfl | rfl <;> rfl

namespace Segment

/-- Whether a segment is an anchor. -/
def isAnchor : Segment → Bool
  | .root | .current => true
  | _ => false

/-- Whether the text of a segment ends with a name, which takes in the name characters behind. -/
def runsOn : Segment → Bool
  | .root | .current | .length => true
  | _ => false

/-- Two segments whose texts keep apart. -/
def Apart (a b : Segment) : Prop :=
  a.runsOn = true → b.isAnchor = false

theorem isChain_cons_of_runsOn_eq_false {s : Segment} (h : s.runsOn = false)
    (path : List Segment) : (s :: path).IsChain Apart ↔ path.IsChain Apart := by
  rw [List.isChain_cons]
  constructor
  · exact fun hchain => hchain.2
  · intro hchain
    refine ⟨fun b _ hs => ?_, hchain⟩
    rw [h] at hs
    cases hs

theorem isChain_cons_of_runsOn {s : Segment} (h : s.runsOn = true) (path : List Segment) :
    (s :: path).IsChain Apart ↔
      (∀ b ∈ path.head?, b.isAnchor = false) ∧ path.IsChain Apart := by
  rw [List.isChain_cons]
  constructor
  · exact fun hchain => ⟨fun b hb => hchain.1 b hb h, hchain.2⟩
  · exact fun hchain => ⟨fun b hb _ => hchain.1 b hb, hchain.2⟩

theorem isNameChar_of_mem_pathText {path : List Segment} (h : ∀ s ∈ path, s.isAnchor = true) :
    ∀ c ∈ pathText path, Words.isNameChar c = true := by
  induction path with
  | nil => intro c hc; cases hc
  | cons s rest ih =>
    intro c hc
    rcases List.mem_append.1 hc with hc | hc
    · have hs := h s List.mem_cons_self
      cases s with
      | root | current =>
        rw [List.mem_singleton.1 hc]
        rfl
      | _ => cases hs
    · exact ih (fun x hx => h x (List.mem_cons_of_mem _ hx)) c hc

/-- No name goes on where a segment starts that is no anchor. -/
theorem continues_pathText {path : List Segment} (hpath : ∀ s ∈ path, s.Passes wellFormed)
    (h : ∀ s ∈ path.head?, s.isAnchor = false) : Words.Continues (pathText path) := by
  cases path with
  | nil => intro c hc; cases hc
  | cons s rest =>
    intro c hc
    have hs := h s rfl
    cases hb : s.isBracketed with
    | true =>
      obtain ⟨inner, htext, -⟩ := (hpath s List.mem_cons_self).exists_inner hb
      rw [pathText, htext] at hc
      exact .inr (Option.some.inj hc).symm
    | false =>
      cases s with
      | descent | length => exact .inl (Option.some.inj hc).symm
      | root | current => cases hs
      | _ => cases hb

end Segment

namespace Words

section Scan

variable {cs rest : List Char} {words : List (List Char)}

theorem scan_descent (h : ∀ position, scan position true cs = .ok (words, rest))
    (position : Nat) (afterDot : Bool) :
    scan position afterDot ('.' :: '.' :: cs) = .ok (['.', '.'] :: words, rest) := by
  rw [scan.eq_def]
  simp only [if_true, h]
  rfl

theorem scan_bracketed {inner : List Char} (hinner : Closed .brackets inner)
    (h : ∀ position, scan position false cs = .ok (words, rest))
    (position : Nat) (afterDot : Bool) :
    scan position afterDot (bracketed inner ++ cs) = .ok (bracketed inner :: words, rest) := by
  have htake := takeBracket_of_closed cs hinner
  have htext : bracketed inner ++ cs = '[' :: (inner ++ ']' :: cs) := by simp [bracketed]
  have hdot : ('[' : Char) ≠ '.' := by decide
  rw [htext, scan.eq_def]
  simp only [hdot, if_false, if_true]
  split
  · next hnone => rw [htake] at hnone; cases hnone
  · next hsome =>
    rw [htake] at hsome
    cases hsome
    rw [h]
    rfl

/-- A name ends where a character follows that cannot be in a name. -/
theorem scan_name {name : List Char} (hne : name ≠ []) (hname : ∀ c ∈ name, isNameChar c = true)
    (hcs : ∀ c ∈ cs.head?, isNameChar c = false)
    (h : ∀ position, scan position false cs = .ok (words, rest))
    (position : Nat) (afterDot : Bool) :
    scan position afterDot (name ++ cs) = .ok (name :: words, rest) := by
  obtain ⟨c, tail, rfl⟩ := List.exists_cons_of_ne_nil hne
  have hc := hname c List.mem_cons_self
  simp only [isNameChar, Bool.not_eq_true', Bool.or_eq_false_iff, decide_eq_false_iff_not] at hc
  obtain ⟨⟨⟨⟨hdot, hopen⟩, hclose⟩, hoperator⟩, hspace⟩ := hc
  have hstar : c ≠ '*' := by
    rintro rfl
    exact absurd hoperator (by decide)
  have htail : ∀ x ∈ tail, isNameChar x = true := fun x hx => hname x (List.mem_cons_of_mem _ hx)
  have hend : cs.takeWhile isNameChar = [] ∧ cs.dropWhile isNameChar = cs := by
    cases cs with
    | nil => exact ⟨rfl, rfl⟩
    | cons d ds =>
      have hd := hcs d rfl
      exact ⟨List.takeWhile_cons_of_neg (by simp [hd]), List.dropWhile_cons_of_neg (by simp [hd])⟩
  rw [List.cons_append, scan.eq_def]
  simp only [hdot, hopen, hclose, hstar, hoperator, hspace, if_false, false_and, Bool.or_self,
    Bool.false_eq_true, List.takeWhile_append_of_pos htail, List.dropWhile_append_of_pos htail,
    hend.1, hend.2, List.append_nil, h]
  rfl

theorem scan_dot {c : Char} (hc : c ≠ '.') (hleads : leads (c :: cs) = true)
    (h : ∀ position, scan position true (c :: cs) = .ok (words, rest))
    (position : Nat) (afterDot : Bool) :
    scan position afterDot ('.' :: c :: cs) = .ok (words, rest) := by
  rw [scan.eq_def]
  simp only [if_true]
  split
  · next he => exact absurd (List.cons.inj he).1 hc
  · rw [if_pos hleads, h]

theorem scan_wildcard (hcs : endsWildcard cs = true)
    (h : ∀ position, scan position false cs = .ok (words, rest)) (position : Nat) :
    scan position true ('*' :: cs) = .ok (['*'] :: words, rest) := by
  have hdot : ('*' : Char) ≠ '.' := by decide
  have hopen : ('*' : Char) ≠ '[' := by decide
  have hclose : ('*' : Char) ≠ ']' := by decide
  rw [scan.eq_def]
  simp only [hdot, hopen, hclose, if_false, true_and, hcs, if_true, h]
  rfl

end Scan

section Path

variable {path : List Segment}

theorem scan_word {s : Segment} (hs : s.runsOn = true) {cs rest : List Char}
    {words : List (List Char)}
    (h : ∀ position afterDot, scan position afterDot (s.word ++ cs) = .ok (words, rest))
    (position : Nat) (afterDot : Bool) :
    scan position afterDot (s.text ++ cs) = .ok (words, rest) := by
  cases s with
  | root | current => exact h position afterDot
  | length => exact scan_dot (by decide) rfl (fun position => h position true) position afterDot
  | _ => cases hs

/-- What the text of a path is cut into: the words of its segments, or fewer. -/
structure CutsInto (path : List Segment) (words : List (List Char)) : Prop where
  scan_eq : ∀ position afterDot, scan position afterDot (Segment.pathText path) = .ok (words, [])
  eq_of_isChain : path.IsChain Segment.Apart → words = path.map Segment.word
  length_lt : ¬path.IsChain Segment.Apart → words.length < path.length

theorem CutsInto.length_le {words : List (List Char)} (h : CutsInto path words) :
    words.length ≤ path.length := by
  by_cases hchain : path.IsChain Segment.Apart
  · rw [h.eq_of_isChain hchain, List.length_map]
  · exact Nat.le_of_lt (h.length_lt hchain)

theorem cutsInto_nil : CutsInto [] [] := by
  refine ⟨fun position afterDot => ?_, fun _ => rfl, fun h => absurd .nil h⟩
  rw [Segment.pathText, scan.eq_def]

/-- A segment that keeps apart from whatever follows is a word of its own. -/
theorem CutsInto.cons {words : List (List Char)} {s : Segment} (h : CutsInto path words)
    (hs : s.Passes wellFormed) (hruns : s.runsOn = false) :
    CutsInto (s :: path) (s.word :: words) := by
  have hiff := Segment.isChain_cons_of_runsOn_eq_false hruns path
  refine ⟨?_, fun hchain => ?_, fun hchain => ?_⟩
  · cases hb : s.isBracketed with
    | true =>
      obtain ⟨inner, htext, hinner⟩ := hs.exists_inner hb
      have hword : s.word = bracketed inner := by
        rw [← htext]
        cases s with
        | length => cases hb
        | _ => rfl
      rw [Segment.pathText, hword, htext]
      exact scan_bracketed hinner.brackets fun position => h.scan_eq position false
    | false =>
      cases s with
      | descent => exact scan_descent fun position => h.scan_eq position true
      | root | current | length => cases hruns
      | _ => cases hb
  · rw [h.eq_of_isChain (hiff.1 hchain), List.map_cons]
  · exact Nat.succ_lt_succ (h.length_lt fun hpath => hchain (hiff.2 hpath))

/-- A name takes in the anchors behind it. -/
theorem CutsInto.cons_append {words : List (List Char)} {s : Segment} {lead : List Segment}
    (h : CutsInto path words) (hpath : ∀ x ∈ path, x.Passes wellFormed) (hruns : s.runsOn = true)
    (hlead : ∀ x ∈ lead, x.isAnchor = true) (hhead : ∀ x ∈ path.head?, x.isAnchor = false) :
    CutsInto (s :: (lead ++ path)) ((s.word ++ Segment.pathText lead) :: words) := by
  have hword : s.word ≠ [] ∧ ∀ c ∈ s.word, isNameChar c = true := by
    cases s with
    | root | current | length => exact ⟨by decide, List.all_eq_true.1 rfl⟩
    | _ => cases hruns
  have hname : ∀ c ∈ s.word ++ Segment.pathText lead, isNameChar c = true := by
    intro c hc
    rcases List.mem_append.1 hc with hc | hc
    · exact hword.2 c hc
    · exact Segment.isNameChar_of_mem_pathText hlead c hc
  have hne : s.word ++ Segment.pathText lead ≠ [] :=
    List.append_ne_nil_of_left_ne_nil hword.1 _
  have hiff := Segment.isChain_cons_of_runsOn hruns (lead ++ path)
  refine ⟨fun position afterDot => ?_, fun hchain => ?_, fun hchain => ?_⟩
  · rw [Segment.pathText, Segment.pathText_append]
    refine scan_word hruns (fun position afterDot => ?_) position afterDot
    rw [← List.append_assoc]
    exact scan_name hne hname (Segment.continues_pathText hpath hhead).isNameChar_eq
      (fun position => h.scan_eq position false) position afterDot
  · obtain ⟨hfirst, htail⟩ := hiff.1 hchain
    cases lead with
    | nil =>
      rw [Segment.pathText, List.append_nil, h.eq_of_isChain htail]
      rfl
    | cons x lead =>
      have hx := hfirst x rfl
      rw [hlead x List.mem_cons_self] at hx
      cases hx
  · have hle := h.length_le
    cases lead with
    | nil => exact Nat.succ_lt_succ (h.length_lt fun htail => hchain (hiff.2 ⟨hhead, htail⟩))
    | cons x lead =>
      simp only [List.length_cons, List.length_append]
      omega

/-- The induction is on the length of the path, because a name takes in all the anchors behind
it at once. -/
theorem exists_cutsInto (hpath : ∀ s ∈ path, s.Passes wellFormed) : ∃ words, CutsInto path words := by
  induction hn : path.length using Nat.strong_induction_on generalizing path with
  | _ n ih =>
    subst hn
    cases path with
    | nil => exact ⟨[], cutsInto_nil⟩
    | cons s rest =>
      have hrest : ∀ x ∈ rest, x.Passes wellFormed := fun x hx => hpath x (List.mem_cons_of_mem _ hx)
      cases hruns : s.runsOn with
      | false =>
        obtain ⟨words, h⟩ := ih rest.length (Nat.lt_succ_self _) hrest rfl
        exact ⟨_, h.cons (hpath s List.mem_cons_self) hruns⟩
      | true =>
        obtain ⟨lead, after, hsplit, hlead, hafter⟩ : ∃ lead after, rest = lead ++ after ∧
            (∀ x ∈ lead, x.isAnchor = true) ∧ ∀ x ∈ after.head?, x.isAnchor = false := by
          refine ⟨rest.takeWhile Segment.isAnchor, rest.dropWhile Segment.isAnchor,
            (List.takeWhile_append_dropWhile).symm, fun x hx => List.mem_takeWhile_imp hx, ?_⟩
          intro x hx
          have hhead := List.head?_dropWhile_not Segment.isAnchor rest
          rw [hx] at hhead
          exact hhead
        subst hsplit
        have hpass : ∀ x ∈ after, x.Passes wellFormed :=
          fun x hx => hrest x (List.mem_append_right _ hx)
        have hlength : after.length < (s :: (lead ++ after)).length := by
          rw [List.length_cons, List.length_append]
          omega
        obtain ⟨words, h⟩ := ih after.length hlength hpass rfl
        exact ⟨_, h.cons_append hpass hruns hlead hafter⟩

/-! ## Queries and selectors -/

/-- Behind its anchor a path goes on with a dot or a bracket, unless another anchor follows. -/
theorem exists_ofAnchor_pathText (hpath : ∀ s ∈ path, s.Passes wellFormed) (anchor : Char) :
    ∃ words, CutsInto path words ∧ ofAnchor anchor (Segment.pathText path) =
      .ok ⟨([anchor] :: words).map String.ofList, ""⟩ := by
  obtain ⟨words, h⟩ := exists_cutsInto hpath
  refine ⟨words, h, ?_⟩
  rw [ofAnchor, h.scan_eq]
  rfl

/-- How a cutter treats the text of a path that starts with an anchor. -/
structure CutsPath (path : List Segment) (result : Except QueryFault Words) : Prop where
  eq_of_isChain : path.IsChain Segment.Apart →
    result = .ok ⟨(path.map Segment.word).map String.ofList, ""⟩
  length_lt : ¬path.IsChain Segment.Apart → ∀ {cut : Words}, result = .ok cut →
    cut.words.length < path.length

theorem cutsPath_of_ofAnchor {anchor : Anchor} {result : Except QueryFault Words}
    (hpath : ∀ s ∈ path, s.Passes wellFormed)
    (hgo : (∀ s ∈ path.head?, s.isAnchor = false) →
      result = ofAnchor anchor.symbol (Segment.pathText path))
    (hstop : ∀ s ∈ path.head?, s.isAnchor = true → ∀ cut, result ≠ .ok cut) :
    CutsPath (anchor.segment :: path) result := by
  have hruns : anchor.segment.runsOn = true := by cases anchor <;> rfl
  have hword : anchor.segment.word = [anchor.symbol] := by cases anchor <;> rfl
  have hiff := Segment.isChain_cons_of_runsOn hruns path
  obtain ⟨words, hcut, hanchor⟩ := exists_ofAnchor_pathText hpath anchor.symbol
  refine ⟨fun hchain => ?_, fun hchain cut hresult => ?_⟩
  · obtain ⟨hhead, htail⟩ := hiff.1 hchain
    rw [hgo hhead, hanchor, hcut.eq_of_isChain htail, List.map_cons (f := Segment.word), hword]
  · by_cases hhead : ∀ s ∈ path.head?, s.isAnchor = false
    · rw [hgo hhead, hanchor] at hresult
      cases hresult
      have hlt := hcut.length_lt fun htail => hchain (hiff.2 ⟨hhead, htail⟩)
      simpa using hlt
    · cases path with
      | nil => exact absurd (fun s hs => by cases hs) hhead
      | cons s rest =>
        have hs : s.isAnchor = true := by
          cases hs : s.isAnchor with
          | true => rfl
          | false => exact absurd (fun x hx => by cases hx; exact hs) hhead
        exact absurd hresult (hstop s rfl hs cut)

theorem cutsPath_ofQuery (hhead : path.head? = some .root)
    (hpath : ∀ s ∈ path, s.Passes wellFormed) :
    CutsPath path (ofQuery (Segment.pathText path)) := by
  obtain ⟨rest, rfl⟩ := List.head?_eq_some_iff.1 hhead
  have hrest : ∀ x ∈ rest, x.Passes wellFormed := fun x hx => hpath x (List.mem_cons_of_mem _ hx)
  refine @cutsPath_of_ofAnchor rest .root _ hrest (fun hhead => ?_) fun s hs hanchor cut => ?_
  · show ofQuery ('$' :: Segment.pathText rest) = _
    have hchars := Segment.continues_pathText hrest hhead
    cases htext : Segment.pathText rest with
    | nil => rfl
    | cons c cs =>
      rw [htext] at hchars
      exact if_pos (hchars c rfl)
  · cases rest with
    | nil => cases hs
    | cons x rest =>
      cases hs
      cases s with
      | root | current => exact fun h => by cases h
      | _ => cases hanchor

theorem cutsPath_ofSelector {anchor : Anchor} (hhead : path.head? = some anchor.segment)
    (hlength : 2 ≤ path.length) (hpath : ∀ s ∈ path, s.Passes wellFormed) :
    CutsPath path (ofSelector (Segment.pathText path)) := by
  obtain ⟨rest, rfl, htext⟩ := Expr.exists_selectorText_eq hhead
  have hrest : ∀ x ∈ rest, x.Passes wellFormed := fun x hx => hpath x (List.mem_cons_of_mem _ hx)
  have hsymbol : anchor.symbol = '$' ∨ anchor.symbol = '@' := by cases anchor <;> simp [Anchor.symbol]
  rw [htext]
  refine cutsPath_of_ofAnchor hrest (fun hhead => ?_) fun s hs hanchor cut => ?_
  · have hchars := Segment.continues_pathText hrest hhead
    obtain ⟨s, tail, rfl⟩ := List.exists_cons_of_ne_nil (l := rest) (by
      rintro rfl
      exact absurd hlength (by simp))
    have hne : Segment.pathText (s :: tail) ≠ [] := by
      obtain ⟨c, hlast, -⟩ := (hrest s List.mem_cons_self).exists_getLast?
      intro hnil
      rw [(List.append_eq_nil_iff.1 hnil).1] at hlast
      cases hlast
    cases htext' : Segment.pathText (s :: tail) with
    | nil => exact absurd htext' hne
    | cons c cs =>
      rw [htext'] at hchars
      rw [ofSelector, if_pos hsymbol]
      exact if_pos (hchars c rfl)
  · cases rest with
    | nil => cases hs
    | cons x rest =>
      cases hs
      rw [ofSelector.eq_def]
      dsimp only
      rw [if_pos hsymbol]
      cases s with
      | root | current => exact fun h => by cases h
      | _ => cases hanchor

end Path

end Words

end PathQuery
