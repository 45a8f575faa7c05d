import PathQuery.Proofs.Nesting
import PathQuery.Proofs.Outcome
import PathQuery.Words

/-!
# What a path is cut into

Cutting a path into words takes nothing away but single dots: every word has one of four forms,
at most one dot stands before it, and what is handed back starts where an expression may go on.
`Pieces` is this as a grammar, and `pieces_of_scan` says that cutting follows it.
-/

namespace PathQuery.Words

open Unicode Text Outcome

/-- A text from a bracket to where the count of what is open first goes back to zero. -/
structure IsBracketed (word : List Char) : Prop where
  head : word.head? = some '['
  last : word.getLast? = some ']'
  closed : Closed .brackets word
  /-- Every proper part from the start leaves something open. -/
  first : ∀ front back, word = front ++ back → front ≠ [] → back ≠ [] →
    ∃ s, Counter.run .brackets .start front = some s ∧ 0 < s.depth

/-- The forms of a word after the anchor. -/
inductive IsWord : List Char → Prop
  | descent : IsWord ['.', '.']
  | wildcard : IsWord ['*']
  | name {word : List Char} : word ≠ [] → (∀ c ∈ word, isNameChar c = true) → IsWord word
  | bracketed {word : List Char} : IsBracketed word → IsWord word

/-- Whether a text starts with a character of the expression language. -/
def StartsWithOperator (cs : List Char) : Prop :=
  ∃ c rest, cs = c :: rest ∧ isOperatorChar c = true

/-- Whether a path may end before this text. -/
def IsRest (cs : List Char) : Prop :=
  cs = [] ∨ ∃ c rest, cs = c :: rest ∧ (isOperatorChar c = true ∨ isSpace c = true)

/-- How a text after an anchor is made of words and what is left. -/
inductive Pieces : List Char → List (List Char) → List Char → Prop
  | done {rest : List Char} : IsRest rest → Pieces rest [] rest
  | dotDone {rest : List Char} : StartsWithOperator rest → Pieces ('.' :: rest) [] rest
  | word {word cs rest : List Char} {words : List (List Char)} : IsWord word →
      Pieces cs words rest → Pieces (word ++ cs) (word :: words) rest
  | dotWord {word cs rest : List Char} {words : List (List Char)} : IsWord word →
      Pieces cs words rest → Pieces ('.' :: (word ++ cs)) (word :: words) rest

/-- A bracket that the cutter takes whole ends where the count first goes back to zero. -/
theorem isBracketed_of_takeBracket {cs taken rest : List Char}
    (h : takeBracket 0 none cs = some (taken, rest)) : IsBracketed ('[' :: taken) := by
  obtain ⟨inner, rfl, hinner⟩ := run_of_takeBracket h
  have hclosed : Closed .brackets inner := hinner
  refine ⟨rfl, List.getLast?_concat (l := '[' :: inner), hclosed.group (by decide) (by decide), ?_⟩
  intro front back hsplit hfront hback
  obtain ⟨c, front, rfl⟩ := List.exists_cons_of_ne_nil hfront
  rw [List.cons_append, List.cons.injEq] at hsplit
  obtain ⟨rfl, hsplit⟩ := hsplit
  -- the closing bracket is the last character of `back`, so `front` is a part of `inner`
  obtain ⟨tail, rfl⟩ : ∃ tail, inner = front ++ tail := by
    rcases List.append_eq_append_iff.1 hsplit with ⟨t, rfl, ht⟩ | ⟨t, ht, -⟩
    · cases t with
      | nil => exact ⟨[], by simp⟩
      | cons x t =>
        have := congrArg List.length ht
        simp at this
        exact absurd this.2 (by simpa using hback)
    · exact ⟨t, ht⟩
  rw [Closed, Counter.run_append] at hclosed
  obtain ⟨s, hs, -⟩ := Option.bind_eq_some_iff.1 hclosed
  refine ⟨s.under 1, ?_, Nat.succ_pos _⟩
  exact Counter.run_under 1 hs

/-- What a bracketed word holds closes what it opens. -/
theorem IsBracketed.exists_closed {word : List Char} (h : IsBracketed word) :
    ∃ inner, word = '[' :: (inner ++ [']']) ∧ Closed .brackets inner := by
  obtain ⟨front, rfl⟩ := List.getLast?_eq_some_iff.1 h.last
  cases front with
  | nil => exact absurd h.head (by decide)
  | cons o inner =>
    cases h.head
    refine ⟨inner, rfl, ?_⟩
    have hrun := h.closed
    rw [Closed, List.cons_append, Counter.run_cons, Option.bind_eq_some_iff] at hrun
    obtain ⟨_, hopen, hrun⟩ := hrun
    cases hopen
    rw [Counter.run_append, Option.bind_eq_some_iff] at hrun
    obtain ⟨s, hs, hlast⟩ := hrun
    -- nothing inside closes the bracket, so the count is one higher than it were without it
    obtain ⟨u, hu, rfl⟩ := Counter.run_of_under (k := 1) (s := .start) hs
      fun part back t hpart hne ht => by
        obtain ⟨v, hv, hpos⟩ := h.first ('[' :: part) (back ++ [']'])
          (by rw [hpart]; simp) (List.cons_ne_nil _ _) (by simp)
        have : v = t := Option.some.inj (hv.symm.trans ht)
        exact this ▸ hpos
    obtain ⟨depth, quoting⟩ := u
    cases quoting with
    | outside => cases depth with
      | zero => exact hu
      | succ depth => cases hlast
    | escaped q => cases hlast
    | inside q =>
      have hdepth := congrArg (Option.map Counter.depth) hlast
      simp [Counter.step, Counter.under, Counter.start] at hdepth

/-- A character that ends nothing starts a name, which takes in the name characters behind it. -/
theorem isNameChar_of_mem_name {c : Char} {cs : List Char} (hdot : c ≠ '.') (hopen : c ≠ '[')
    (hclose : c ≠ ']') (hend : ¬(isOperatorChar c || isSpace c) = true) :
    ∀ x ∈ c :: cs.takeWhile isNameChar, isNameChar x = true := by
  intro x hx
  rcases List.mem_cons.1 hx with rfl | hx
  · simpa [isNameChar, hdot, hopen, hclose] using hend
  · exact List.all_eq_true.1 List.all_takeWhile x hx

theorem pieces_of_scan {position : Nat} {afterDot : Bool} {cs rest : List Char}
    {words : List (List Char)} (h : scan position afterDot cs = .ok (words, rest)) :
    Pieces cs words rest := by
  fun_induction scan position afterDot cs generalizing words rest with
  | case1 =>
    cases h
    exact .done (.inl rfl)
  | case2 position afterDot cs ih =>
    obtain ⟨⟨ws, r⟩, hscan, he⟩ := bind_eq_ok.1 h
    cases he
    exact .word .descent (ih hscan)
  | case3 position afterDot cs hdot hleads ih =>
    -- the next piece has no dot of its own, because the text does not start with one
    have hcs := ih h
    cases hcs with
    | done hrest =>
      rcases hrest with rfl | ⟨c, r, rfl, hc⟩
      · cases hleads
      · refine .dotDone ⟨c, r, rfl, ?_⟩
        simp only [leads, Bool.and_eq_true, Bool.not_eq_true'] at hleads
        simpa [hleads.2] using hc
    | dotDone hrest => exact absurd rfl (hdot _)
    | word hword hcs => exact .dotWord hword hcs
    | dotWord hword hcs => exact absurd rfl (hdot _)
  | case4 => cases h
  | case5 => cases h
  | case6 position afterDot tail taken cs htake _ ih =>
    obtain ⟨⟨ws, r⟩, hscan, he⟩ := bind_eq_ok.1 h
    cases he
    rw [← takeBracket_append htake, ← List.cons_append]
    exact .word (.bracketed (isBracketed_of_takeBracket htake)) (ih hscan)
  | case7 => cases h
  | case8 position afterDot c tail _ _ _ hstar ih =>
    obtain ⟨⟨ws, r⟩, hscan, he⟩ := bind_eq_ok.1 h
    cases he
    rw [hstar.1]
    exact .word .wildcard (ih hscan)
  | case9 position afterDot c tail _ _ _ _ hend =>
    cases h
    exact .done (.inr ⟨c, tail, rfl, by simpa using hend⟩)
  | case10 position afterDot c tail hdot hopen hclose _ hend name =>
    rename_i ih
    obtain ⟨⟨ws, r⟩, hscan, he⟩ := bind_eq_ok.1 h
    cases he
    rw [← List.takeWhile_append_dropWhile (p := isNameChar) (l := tail), ← List.cons_append]
    exact .word (.name (List.cons_ne_nil _ _) (isNameChar_of_mem_name hdot hopen hclose hend)) (ih hscan)

/-- How a text is cut: the anchor, words with at most one dot before each of them, perhaps a
dot that leads on to an operator, and the rest. -/
structure IsCut (anchor : Char) (text : List Char) (cut : Words)
    (parts : List (List Char × List Char)) (dot : List Char) : Prop where
  words : cut.words = ([anchor] :: parts.map Prod.snd).map String.ofList
  text : text = anchor :: ((parts.flatMap fun part => part.1 ++ part.2) ++ dot ++ cut.rest.toList)
  separator : ∀ part ∈ parts, part.1 = [] ∨ part.1 = ['.']
  isWord : ∀ part ∈ parts, IsWord part.2
  dot : dot = [] ∨ dot = ['.'] ∧ StartsWithOperator cut.rest.toList
  rest : IsRest cut.rest.toList

theorem isRest_of_startsWithOperator {cs : List Char} (h : StartsWithOperator cs) : IsRest cs := by
  obtain ⟨c, rest, rfl, hc⟩ := h
  exact .inr ⟨c, rest, rfl, .inl hc⟩

theorem Pieces.exists_isCut {cs rest : List Char} {words : List (List Char)}
    (h : Pieces cs words rest) (anchor : Char) : ∃ parts dot,
      IsCut anchor (anchor :: cs) ⟨([anchor] :: words).map String.ofList, String.ofList rest⟩
        parts dot := by
  induction h with
  | done hrest =>
    exact ⟨[], [], rfl, by simp, by simp, by simp, .inl rfl, by simpa using hrest⟩
  | dotDone hrest =>
    exact ⟨[], ['.'], rfl, by simp, by simp, by simp, .inr ⟨rfl, by simpa using hrest⟩,
      by simpa using isRest_of_startsWithOperator hrest⟩
  | @word word cs rest words hword _ ih =>
    obtain ⟨parts, dot, ih⟩ := ih
    obtain ⟨-, htext⟩ := List.cons.inj ih.text
    refine ⟨([], word) :: parts, dot, ?_, ?_, ?_, ?_, ih.dot, ih.rest⟩
    · simpa using ih.words
    · simpa using htext
    · simpa using ih.separator
    · simpa [hword] using ih.isWord
  | @dotWord word cs rest words hword _ ih =>
    obtain ⟨parts, dot, ih⟩ := ih
    obtain ⟨-, htext⟩ := List.cons.inj ih.text
    refine ⟨(['.'], word) :: parts, dot, ?_, ?_, ?_, ?_, ih.dot, ih.rest⟩
    · simpa using ih.words
    · simpa using htext
    · simpa using ih.separator
    · simpa [hword] using ih.isWord

theorem exists_isCut_of_ofAnchor {anchor : Char} {cs : List Char} {cut : Words}
    (h : ofAnchor anchor cs = .ok cut) : ∃ parts dot, IsCut anchor (anchor :: cs) cut parts dot := by
  obtain ⟨⟨words, rest⟩, hscan, he⟩ := bind_eq_ok.1 h
  cases he
  exact (pieces_of_scan hscan).exists_isCut anchor

theorem eq_cons_of_ofQuery {cs : List Char} {cut : Words} (h : ofQuery cs = .ok cut) :
    ∃ rest, cs = '$' :: rest ∧ ofAnchor '$' rest = .ok cut := by
  unfold ofQuery at h
  split at h
  · cases h
  · split at h
    · split at h
      · exact ⟨_, rfl, h⟩
      · cases h
    · exact ⟨_, rfl, h⟩
  · cases h
  · cases h

theorem eq_cons_of_ofSelector {cs : List Char} {cut : Words} (h : ofSelector cs = .ok cut) :
    ∃ anchor c rest, cs = anchor :: c :: rest ∧ (anchor = '$' ∨ anchor = '@') ∧
      (c = '.' ∨ c = '[') ∧ ofAnchor anchor (c :: rest) = .ok cut := by
  unfold ofSelector at h
  split at h
  · cases h
  · split at h
    · next ha =>
      split at h
      · split at h
        · next hc => exact ⟨_, _, _, rfl, ha, hc, h⟩
        · cases h
      · cases h
    · cases h

/-- Cutting a query or a selector loses nothing but single dots, and every word has its form. -/
theorem isCut_of_ofQuery_of_ofSelector (text : List Char) (cut : Words) :
    (ofQuery text = .ok cut → ∃ parts dot, IsCut '$' text cut parts dot) ∧
      (ofSelector text = .ok cut → ∃ anchor parts dot,
        (anchor = '$' ∨ anchor = '@') ∧ IsCut anchor text cut parts dot) := by
  constructor
  · intro h
    obtain ⟨rest, rfl, hcut⟩ := eq_cons_of_ofQuery h
    exact exists_isCut_of_ofAnchor hcut
  · intro h
    obtain ⟨anchor, c, rest, rfl, ha, -, hanchor⟩ := eq_cons_of_ofSelector h
    obtain ⟨parts, dot, hcut⟩ := exists_isCut_of_ofAnchor hanchor
    exact ⟨anchor, parts, dot, ha, hcut⟩

/-- A path with every form of word, which ends in a dot before an operator. -/
theorem isCut_of_mixed_path :
    (ofQuery "$.a..*['x]'][?(@.b)].+ 1".toList =
        .ok ⟨["$", "a", "..", "*", "['x]']", "[?(@.b)]"], "+ 1"⟩ ∧
      ofSelector "@.a..*['x]'][?(@.b)].+ 1".toList =
        .ok ⟨["@", "a", "..", "*", "['x]']", "[?(@.b)]"], "+ 1"⟩) ∧
    (∃ parts dot, IsCut '$' "$.a..*['x]'][?(@.b)].+ 1".toList
      ⟨["$", "a", "..", "*", "['x]']", "[?(@.b)]"], "+ 1"⟩ parts dot) ∧
    ∃ anchor parts dot, (anchor = '$' ∨ anchor = '@') ∧
      IsCut anchor "@.a..*['x]'][?(@.b)].+ 1".toList
        ⟨["@", "a", "..", "*", "['x]']", "[?(@.b)]"], "+ 1"⟩ parts dot := by
  have hquery : ofQuery "$.a..*['x]'][?(@.b)].+ 1".toList =
      .ok ⟨["$", "a", "..", "*", "['x]']", "[?(@.b)]"], "+ 1"⟩ := by cbv
  have hselector : ofSelector "@.a..*['x]'][?(@.b)].+ 1".toList =
      .ok ⟨["@", "a", "..", "*", "['x]']", "[?(@.b)]"], "+ 1"⟩ := by cbv
  exact ⟨⟨hquery, hselector⟩, (isCut_of_ofQuery_of_ofSelector _ _).1 hquery,
    (isCut_of_ofQuery_of_ofSelector _ _).2 hselector⟩

end PathQuery.Words
