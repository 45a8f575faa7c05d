import PathQuery.Proofs.ExprText

/-!
# Where an operand ends

A constant or a selector is not the same operand any more when more text is put behind it, if that
text starts with an operator or a parenthesis, white space apart. What stands in an expression
behind an operand starts so, and therefore the text of an operand is known from where it starts and
what it stands for.
-/

namespace PathQuery

open Number Text Unicode Outcome

/-! ## What stands behind an operand -/

/-- Whether a character is a parenthesis or starts an operator. -/
def followsOperand (c : Char) : Bool :=
  c ∈ ['(', ')', '|', '&', '!', '=', '<', '>', '+', '-', '*', '/', '%']

/-- Whether a text starts with an operator or a parenthesis, white space apart. -/
def FollowsOperand (more : List Char) : Prop :=
  ∃ c rest, trimStart more = c :: rest ∧ followsOperand c = true

/-- Whether a character may stand right behind an operand. -/
def isBreak (c : Char) : Bool :=
  isSpace c || followsOperand c

theorem FollowsOperand.exists_cons {more : List Char} (h : FollowsOperand more) :
    ∃ d rest, more = d :: rest ∧ isBreak d = true := by
  obtain ⟨c, rest, htrim, hc⟩ := h
  cases more with
  | nil => cases htrim
  | cons d more =>
    refine ⟨d, more, rfl, ?_⟩
    cases hd : isSpace d with
    | true => simp [isBreak, hd]
    | false =>
      rw [trimStart, List.dropWhile_cons_of_neg (by simp [hd])] at htrim
      cases htrim
      simp [isBreak, hc]

theorem FollowsOperand.isBlank_eq {more : List Char} (h : FollowsOperand more) :
    isBlank more = false := by
  obtain ⟨c, rest, htrim, -⟩ := h
  cases hblank : isBlank more with
  | false => rfl
  | true => rw [trimStart_eq_nil_iff.2 hblank] at htrim; cases htrim

theorem ne_of_isBreak {c d : Char} (hd : isBreak d = true) (hc : isBreak c = false) : d ≠ c := by
  rintro rfl
  rw [hd] at hc
  cases hc

theorem isDigit_of_isBreak {d : Char} (hd : isBreak d = true) : d.isDigit = false := by
  cases hdigit : d.isDigit with
  | false => rfl
  | true =>
    have hspace := isSpace_of_isEnd (isEnd_of_isDigit hdigit)
    have hne {c : Char} (hc : c.isDigit = false) : d ≠ c := ne_of_isDigit hdigit hc
    simp [isBreak, followsOperand, hspace, hne] at hd

/-! ## Numbers -/

namespace Number

variable {d : Char} (hd : isBreak d = true)

include hd

theorem readInt_append_eq_none {cs : List Char} {n : Int} (h : readInt cs = some n)
    (rest : List Char) : readInt (cs ++ d :: rest) = none := by
  have hdigit := isDigit_of_isBreak hd
  cases cs with
  | nil => cases h
  | cons c cs =>
    have hmem : d ∈ cs ++ d :: rest := List.mem_append_right _ List.mem_cons_self
    rw [List.cons_append]
    unfold readInt
    split
    · next he => rw [← (List.cons.inj he).2, readNat_eq_none_of_mem hmem hdigit]; rfl
    · next he => rw [← (List.cons.inj he).2, readNat_eq_none_of_mem hmem hdigit]; rfl
    · rw [readNat_eq_none_of_mem (List.mem_cons_of_mem _ hmem) hdigit]; rfl

theorem readInt64_append_eq_none {cs : List Char} {n : Int64} (h : readInt64 cs = some n)
    (rest : List Char) : readInt64 (cs ++ d :: rest) = none := by
  obtain ⟨m, hm, -⟩ := Option.bind_eq_some_iff.1 h
  rw [readInt64, readInt_append_eq_none hd hm]
  rfl

theorem readExponent_append_eq_none {cs : List Char} {n : Int} (h : readExponent cs = some n)
    (rest : List Char) : readExponent (cs ++ d :: rest) = none := by
  cases cs with
  | nil =>
    have hletter : ¬(d = 'e' ∨ d = 'E') := not_or.2 ⟨ne_of_isBreak hd rfl, ne_of_isBreak hd rfl⟩
    rw [List.nil_append, readExponent, if_neg hletter]
  | cons c cs =>
    rw [readExponent] at h
    split at h
    · next hletter =>
      rw [List.cons_append, readExponent, if_pos hletter, readInt_append_eq_none hd h]
    · cases h

theorem dropWhile_digits_append (cs rest : List Char) :
    (cs ++ d :: rest).dropWhile Char.isDigit = cs.dropWhile Char.isDigit ++ d :: rest := by
  rw [List.dropWhile_append]
  split
  · next hnil =>
    rw [List.isEmpty_iff.1 hnil]
    exact List.dropWhile_cons_of_neg (by simp [isDigit_of_isBreak hd])
  · rfl

/-- A decimal number is its digits, which may have a point among them, and its exponent. -/
theorem readDecimal_append_eq_none {cs : List Char} {x : Scientific} (h : readDecimal cs = some x)
    (rest : List Char) : readDecimal (cs ++ d :: rest) = none := by
  have hpoint : d ≠ '.' := ne_of_isBreak hd rfl
  unfold readDecimal at h ⊢
  dsimp only at h ⊢
  rw [dropWhile_digits_append hd]
  -- the exponent is what the digits and the point leave over, now with more text behind it
  cases hdrop : cs.dropWhile Char.isDigit with
  | nil =>
    rw [List.nil_append]
    split
    · next he => exact absurd (List.cons.inj he).1 hpoint
    · have hnil : readExponent [] = some 0 := rfl
      rw [← List.nil_append (d :: rest), readExponent_append_eq_none hd hnil]
      split <;> rfl
  | cons c after =>
    rw [hdrop] at h
    rw [List.cons_append]
    split at h
    · next he =>
      cases he
      split
      · next he =>
        cases he
        split at h
        · cases h
        · obtain ⟨exponent, hexponent, -⟩ := Option.map_eq_some_iff.1 h
          rw [dropWhile_digits_append hd, readExponent_append_eq_none hd hexponent]
          split <;> rfl
      · next hne => exact absurd rfl (hne _)
    · next hne =>
      split
      · next he => exact absurd (congrArg (· :: after) (List.cons.inj he).1) (hne after)
      · split at h
        · cases h
        · obtain ⟨exponent, hexponent, -⟩ := Option.map_eq_some_iff.1 h
          rw [← List.cons_append, readExponent_append_eq_none hd hexponent]
          split <;> rfl

omit hd in
/-- A number that starts with a digit or a point is no infinity and no number that is none. -/
theorem readMagnitude_cons {c : Char} (hc : c.isDigit = true ∨ c = '.') (cs : List Char) :
    readMagnitude (c :: cs) = (readDecimal (c :: cs)).map fun x =>
      scientific x.coefficient x.exponent := by
  have hlower : c.toLower ∉ ['i', 'n'] := by
    rcases hc with hc | rfl
    · have hsame : c.toLower = c := by
        refine dif_neg fun hupper => ?_
        have hhigh : c.toNat ≤ 57 := (Char.isDigit_iff_toNat.1 hc).2
        have hlow : 65 ≤ c.toNat := hupper.1
        omega
      rw [hsame]
      have hi : c ≠ 'i' := ne_of_isDigit hc rfl
      have hn : c ≠ 'n' := ne_of_isDigit hc rfl
      simp [hi, hn]
    · decide
  have hname {name : String} (first : Char) (hfirst : name.toList.head? = some first)
      (h : String.ofList ((c :: cs).map Char.toLower) = name) : c.toLower = first := by
    rw [← h, String.toList_ofList] at hfirst
    exact Option.some.inj hfirst
  unfold readMagnitude
  split
  · next h => exact absurd (hname 'i' rfl h) fun e => hlower (by simp [e])
  · next h => exact absurd (hname 'i' rfl h) fun e => hlower (by simp [e])
  · next h => exact absurd (hname 'n' rfl h) fun e => hlower (by simp [e])
  · rfl

omit hd in
/-- What looks like a number is read as a decimal number behind its sign, whatever follows it. -/
theorem exists_of_looksNumeric {cs : List Char} (h : Literal.looksNumeric cs = true) :
    ∃ sign body, cs = sign ++ body ∧ ∀ more,
      (readFloat (cs ++ more)).isSome = (readDecimal (body ++ more)).isSome := by
  simp only [Literal.looksNumeric, Bool.and_eq_true, Option.any_eq_true, Bool.or_eq_true,
    decide_eq_true_eq] at h
  obtain ⟨⟨⟨c, hhead, hc⟩, -⟩, -⟩ := h
  cases cs with
  | nil => cases hhead
  | cons s cs =>
    by_cases hsign : s = '-' ∨ s = '+'
    · simp only [if_pos hsign] at hhead
      obtain ⟨tail, rfl⟩ := List.head?_eq_some_iff.1 hhead
      refine ⟨[s], c :: tail, rfl, fun more => ?_⟩
      rcases hsign with rfl | rfl <;>
        simp [readFloat, readMagnitude_cons hc]
    · simp only [if_neg hsign] at hhead
      cases hhead
      refine ⟨[], c :: cs, rfl, fun more => ?_⟩
      rw [not_or] at hsign
      rw [List.cons_append, readFloat.eq_3 _ (by simp [hsign.1]) (by simp [hsign.2]),
        readMagnitude_cons hc, Option.isSome_map]

theorem readFloat_append_eq_none {cs : List Char} {x : Float} (hnumeric : Literal.looksNumeric cs = true)
    (h : readFloat cs = some x) (rest : List Char) : readFloat (cs ++ d :: rest) = none := by
  obtain ⟨sign, body, -, hbody⟩ := exists_of_looksNumeric hnumeric
  have hsome := hbody []
  rw [List.append_nil, List.append_nil, h] at hsome
  obtain ⟨y, hy⟩ := Option.isSome_iff_exists.1 hsome.symm
  have hnone := hbody (d :: rest)
  rw [readDecimal_append_eq_none hd hy, Option.isSome_none] at hnone
  exact Option.isNone_iff_eq_none.1 (Option.isSome_eq_false_iff.1 hnone)

end Number

/-! ## Constants -/

/-- A closing quote that is the end is not the end any more. -/
theorem Text.readLiteral_append_eq_none {mark : Char} {cs text more : List Char}
    (h : readLiteral mark cs = some text) (hmore : more ≠ []) :
    readLiteral mark (cs ++ more) = none := by
  induction cs using readLiteral.induct mark generalizing text with
  | case1 => cases h
  | case2 => cases h
  | case3 c cs ih =>
    obtain ⟨text', htext, -⟩ := Option.map_eq_some_iff.1 h
    rw [List.cons_append, List.cons_append, readLiteral, ih htext]
    rfl
  | case4 cs hend hlone hescape =>
    obtain rfl := List.isEmpty_iff.1 hend
    have hmark : mark ≠ '\\' := fun he => hlone he rfl
    rw [List.singleton_append, readLiteral.eq_4 _ _ _ (by simp [hmark]) (by simp [hmark]), if_pos rfl,
      if_neg]
    exact fun hnil => hmore (List.isEmpty_iff.1 hnil)
  | case5 cs hend hlone hescape =>
    rw [readLiteral.eq_4 _ _ _ hlone hescape, if_pos rfl, if_neg hend] at h
    cases h
  | case6 c cs hlone hescape hc ih =>
    have hbackslash : c ≠ '\\' := by
      rintro rfl
      cases cs with
      | nil => exact hlone rfl rfl
      | cons d cs => exact hescape d cs rfl rfl
    rw [readLiteral.eq_4 _ _ _ hlone hescape, if_neg hc] at h
    obtain ⟨text', htext, -⟩ := Option.map_eq_some_iff.1 h
    rw [List.cons_append, readLiteral.eq_4 _ _ _ (by simp [hbackslash]) (by simp [hbackslash]),
      if_neg hc, ih htext]
    rfl

namespace Literal

/-- The forms of a constant. -/
inductive IsRead (cs : List Char) : Literal → Prop
  | null : cs = "nil".toList ∨ cs = "null".toList → IsRead cs .null
  | bool {b : Bool} : cs = (toString b).toList → IsRead cs (.bool b)
  | integer {n : Int64} : readInt64 cs = some n → IsRead cs (.integer n)
  | float {x : Float} : looksNumeric cs = true → readFloat cs = some x → IsRead cs (.float x)
  | quoted {mark : Char} {rest text : List Char} {s : String} : cs = mark :: rest →
      isQuote mark = true → readLiteral mark rest = some text → IsRead cs (.string s)
  | plain {c : Char} {rest : List Char} {s : String} : cs = c :: rest → isQuote c = false →
      s.toList = cs → IsRead cs (.string s)
  | json {v : Value} {c : Char} {rest : List Char} : cs = c :: rest → c = '[' ∨ c = '\x7b' →
      Value.ofText? (String.ofList cs) = some v → IsRead cs (.json v)

theorem isRead_of_readForm {cs : List Char} {value : Literal} (h : readForm cs = .ok value) :
    IsRead cs value := by
  unfold readForm at h
  split at h
  · cases h
  next c rest =>
  split at h
  · next hquote =>
    split at h
    · next text htext =>
      cases h
      exact .quoted rfl hquote htext
    · cases h
  next hquote =>
  have hplain : isQuote c = false := by simpa using hquote
  split at h
  · cases h
    exact .plain rfl hplain String.toList_ofList
  split at h
  · next hc =>
    split at h
    · next v hv =>
      cases h
      exact .json rfl hc hv
    · cases h
  split at h
  · cases h
    exact .plain rfl hplain String.toList_ofList
  · cases h

theorem isRead_of_read {cs : List Char} {value : Literal} (h : read cs = .ok value) :
    IsRead cs value := by
  unfold read at h
  split at h
  · next hcs =>
    cases h
    exact .null hcs
  split at h
  · next hcs =>
    cases h
    exact .bool hcs
  split at h
  · next hcs =>
    cases h
    exact .bool hcs
  split at h
  · next n hn =>
    cases h
    exact .integer hn
  split at h
  · next x hx =>
    split at h
    · cases h
      obtain ⟨hnumeric, hx⟩ := Option.ite_none_right_eq_some.1 hx
      exact .float hnumeric hx
    · cases h
  · exact isRead_of_readForm h

/-- The text of an array or an object is none any more with something behind it. -/
theorem isBlank_of_ofText? {cs more : List Char} {c : Char} {rest : List Char} {v v' : Value}
    (hcs : cs = c :: rest) (hc : c = '[' ∨ c = '\x7b')
    (h : Value.ofText? (String.ofList cs) = some v)
    (h' : Value.ofText? (String.ofList (cs ++ more)) = some v') : isBlank more = true := by
  obtain ⟨j, hj, -⟩ := Value.exists_read_of_ofText? h
  obtain ⟨j', hj', -⟩ := Value.exists_read_of_ofText? h'
  have hstarts : Json.StartsContainer cs := by
    subst hcs
    rcases hc with rfl | rfl
    · exact ⟨rest, .inl rfl⟩
    · exact ⟨rest, .inr rfl⟩
  have hblanks := Json.documented.skipBlanks_eq_nil more hstarts hj hj'
  rw [Json.skipBlanks, List.dropWhile_eq_nil_iff] at hblanks
  rw [isBlank, List.all_eq_true]
  intro x hx
  have hblank := hblanks x hx
  simp only [Bool.or_eq_true, beq_iff_eq] at hblank
  rcases hblank with ((rfl | rfl) | rfl) | rfl <;> decide

/-- A constant with more text behind it that may follow an operand is not the same constant. -/
theorem IsRead.not_append {cs more : List Char} {value : Literal} (h : IsRead cs value)
    (h' : IsRead (cs ++ more) value) (hmore : FollowsOperand more) : False := by
  obtain ⟨d, rest, hcons, hd⟩ := hmore.exists_cons
  have hne : more ≠ [] := hcons ▸ List.cons_ne_nil d rest
  have hsame : cs ++ more ≠ cs := fun he => hne (List.append_right_eq_self.1 he)
  cases h with
  | null hcs =>
    cases h' with
    | null hcs' => rcases hcs with rfl | rfl <;> rcases hcs' with hcs' | hcs' <;> simp_all
  | bool hcs =>
    cases h' with
    | bool hcs' => exact hsame (hcs'.trans hcs.symm)
  | integer hread =>
    cases h' with
    | integer hread' =>
      rw [hcons, readInt64_append_eq_none hd hread] at hread'
      cases hread'
  | float hnumeric hread =>
    cases h' with
    | float _ hread' =>
      rw [hcons, readFloat_append_eq_none hd hnumeric hread] at hread'
      cases hread'
  | quoted hcs hquote hread =>
    cases h' with
    | quoted hcs' _ hread' =>
      rw [hcs, List.cons_append] at hcs'
      cases hcs'
      rw [readLiteral_append_eq_none hread hne] at hread'
      cases hread'
    | plain hcs' hplain =>
      rw [hcs, List.cons_append] at hcs'
      cases hcs'
      rw [hplain] at hquote
      cases hquote
  | plain hcs hplain hs =>
    cases h' with
    | quoted hcs' hquote _ =>
      rw [hcs, List.cons_append] at hcs'
      cases hcs'
      rw [hplain] at hquote
      cases hquote
    | plain _ _ hs' => exact hsame (hs'.symm.trans hs)
  | json hcs hc hread =>
    cases h' with
    | json _ _ hread' =>
      have hblank := isBlank_of_ofText? hcs hc hread hread'
      rw [hmore.isBlank_eq] at hblank
      cases hblank

/-- No constant starts with a parenthesis. -/
theorem read_parenthesis_ne_ok {c : Char} (hc : c = '(' ∨ c = ')') (rest : List Char)
    (value : Literal) : read (c :: rest) ≠ .ok value := by
  intro h
  rcases hc with rfl | rfl
  all_goals
    rw [read_of_head rfl, readForm] at h
    simp [isQuote, isWordChar, isAlphanumeric] at h

end Literal

/-! ## Selectors -/

namespace Words

/-- How the words of a path change when text is put behind it that starts no segment of its own:
there are more of them, or the last one is a name that goes on. -/
inductive Extends : List (List Char) → List (List Char) → Prop
  | more {words words' : List (List Char)} : words.length < words'.length → Extends words words'
  | name {front : List (List Char)} {name tail : List Char} : name ≠ [] → tail ≠ [] →
      (∀ c ∈ name ++ tail, isNameChar c = true) → Extends (front ++ [name]) (front ++ [name ++ tail])

theorem Extends.cons {words words' : List (List Char)} (h : Extends words words')
    (word : List Char) : Extends (word :: words) (word :: words') := by
  cases h with
  | more hlength => exact .more (Nat.succ_lt_succ hlength)
  | @name front name tail hne htail hname => exact @Extends.name (word :: front) _ _ hne htail hname

theorem extends_nil {words : List (List Char)} (h : words ≠ []) : Extends [] words :=
  .more (List.length_pos_iff.2 h)

theorem scan_bracket {position : Nat} {afterDot : Bool} {rest taken after : List Char}
    (h : takeBracket 0 none rest = some (taken, after)) :
    scan position afterDot ('[' :: rest) = do
      let (words, rest) ← scan (position + 1 + taken.length) false after
      return (('[' :: taken) :: words, rest) := by
  rw [scan.eq_def]
  have hdot : ('[' : Char) ≠ '.' := by decide
  simp only [hdot, if_false, if_true]
  split
  · next hnone => rw [h] at hnone; cases hnone
  · next hsome => rw [h] at hsome; cases hsome; rfl

/-- A character that ends nothing and is no asterisk starts a name. -/
theorem scan_nameStart {position : Nat} {afterDot : Bool} {c : Char} {rest : List Char}
    (hc : isNameChar c = true) :
    scan position afterDot (c :: rest) = do
      let (words, after) ← scan (position + (c :: rest.takeWhile isNameChar).length) false
        (rest.dropWhile isNameChar)
      return ((c :: rest.takeWhile isNameChar) :: words, after) := by
  simp only [isNameChar, Bool.not_eq_true', Bool.or_eq_false_iff, decide_eq_false_iff_not] at hc
  obtain ⟨⟨⟨⟨hdot, hopen⟩, hclose⟩, hoperator⟩, hspace⟩ := hc
  have hstar : c ≠ '*' := by
    rintro rfl
    exact absurd hoperator (by decide)
  rw [scan.eq_def]
  simp only [hdot, hopen, hclose, hstar, hoperator, hspace, if_false, false_and, Bool.or_self,
    Bool.false_eq_true]

/-- A text that is cut to its end has words, unless it is empty. -/
theorem ne_nil_of_scan {position : Nat} {afterDot : Bool} {cs : List Char} {words : List (List Char)}
    (h : scan position afterDot cs = .ok (words, [])) (hcs : cs ≠ []) : words ≠ [] := by
  have hpieces := pieces_of_scan h
  rintro rfl
  cases hpieces with
  | done => exact hcs rfl
  | dotDone hrest => obtain ⟨c, rest, he, -⟩ := hrest; cases he

/-- A name that a text ends in goes on behind it, or a word follows. -/
theorem extends_name {position : Nat} {name more : List Char} {words : List (List Char)}
    (hne : name ≠ []) (hmore : more ≠ []) (hname : ∀ c ∈ name, isNameChar c = true)
    (h : scan position false (more.dropWhile isNameChar) = .ok (words, [])) :
    Extends [name] ((name ++ more.takeWhile isNameChar) :: words) := by
  cases words with
  | cons word words => exact .more (by simp)
  | nil =>
    have htail : more.takeWhile isNameChar ≠ [] := by
      intro hnil
      refine absurd rfl (ne_nil_of_scan h fun hrest => hmore ?_)
      rw [← List.takeWhile_append_dropWhile (p := isNameChar) (l := more), hnil, hrest]
      rfl
    refine @Extends.name [] _ _ hne htail fun c hc => ?_
    rcases List.mem_append.1 hc with hc | hc
    · exact hname c hc
    · exact List.mem_takeWhile_imp hc

/-- The induction follows the cutting of the first text. The readers that look ahead meet the other
text at its end: there a name goes on, an asterisk is no wildcard any more, or a word follows. -/
theorem extends_of_scan {position position' : Nat} {afterDot : Bool} {cs more : List Char}
    {words words' : List (List Char)} (hmore : FollowsOperand more)
    (h : scan position afterDot cs = .ok (words, []))
    (h' : scan position' afterDot (cs ++ more) = .ok (words', [])) : Extends words words' := by
  obtain ⟨d, rest, hcons, hd⟩ := hmore.exists_cons
  have hne : more ≠ [] := hcons ▸ List.cons_ne_nil d rest
  fun_induction scan position afterDot cs generalizing words words' position' with
  | case1 =>
    cases h
    exact extends_nil (ne_nil_of_scan h' hne)
  | case2 position afterDot cs ih =>
    obtain ⟨⟨ws, r⟩, hscan, he⟩ := bind_eq_ok.1 h
    cases he
    rw [List.cons_append, List.cons_append, scan.eq_def] at h'
    simp only [if_true] at h'
    obtain ⟨⟨ws', r'⟩, hscan', he⟩ := bind_eq_ok.1 h'
    cases he
    exact (ih hscan hscan').cons _
  | case3 position afterDot cs hdot hleads ih =>
    cases cs with
    | nil => cases hleads
    | cons c cs =>
      rw [List.cons_append, List.cons_append, scan.eq_def] at h'
      simp only [if_true] at h'
      split at h'
      · next he => exact absurd (congrArg (· :: cs) (List.cons.inj he).1) (hdot cs)
      · split at h'
        · exact ih h h'
        · cases h'
  | case4 => cases h
  | case5 => cases h
  | case6 position afterDot tail taken cs htake _ ih =>
    obtain ⟨⟨ws, r⟩, hscan, he⟩ := bind_eq_ok.1 h
    cases he
    obtain ⟨inner, rfl, hinner⟩ := run_of_takeBracket htake
    have htake' : takeBracket 0 none (tail ++ more) = some (inner ++ [']'], cs ++ more) := by
      have hclosed := takeBracket_of_closed (cs ++ more) hinner
      rw [← takeBracket_append htake]
      simpa using hclosed
    rw [List.cons_append, scan_bracket htake'] at h'
    obtain ⟨⟨ws', r'⟩, hscan', he⟩ := bind_eq_ok.1 h'
    cases he
    exact (ih hscan hscan').cons _
  | case7 => cases h
  | case8 position afterDot c cs _ _ _ hstar ih =>
    obtain ⟨⟨ws, r⟩, hscan, he⟩ := bind_eq_ok.1 h
    cases he
    obtain ⟨rfl, rfl, -⟩ := hstar
    have hdot : ('*' : Char) ≠ '.' := by decide
    have hopen : ('*' : Char) ≠ '[' := by decide
    have hclose : ('*' : Char) ≠ ']' := by decide
    have hoperator : isOperatorChar '*' = true := by decide
    rw [List.cons_append, scan.eq_def] at h'
    simp only [hdot, hopen, hclose, if_false, true_and, hoperator, Bool.true_or, if_true] at h'
    split at h'
    · obtain ⟨⟨ws', r'⟩, hscan', he⟩ := bind_eq_ok.1 h'
      cases he
      exact (ih hscan hscan').cons _
    · cases h'
  | case9 => cases h
  | case10 position afterDot c cs hdot hopen hclose _ hend name =>
    rename_i ih
    obtain ⟨⟨ws, r⟩, hscan, he⟩ := bind_eq_ok.1 h
    cases he
    have hname : ∀ x ∈ name, isNameChar x = true :=
      isNameChar_of_mem_name hdot hopen hclose hend
    rw [List.cons_append, scan_nameStart (hname c List.mem_cons_self)] at h'
    obtain ⟨⟨ws', r'⟩, hscan', he⟩ := bind_eq_ok.1 h'
    cases he
    by_cases hdrop : cs.dropWhile isNameChar = []
    · have hall : ∀ x ∈ cs, isNameChar x = true := by simpa using hdrop
      have hword : name = c :: cs := congrArg (c :: ·) (List.takeWhile_eq_self_iff.2 hall)
      rw [hdrop, scan.eq_def] at hscan
      cases hscan
      rw [List.dropWhile_append_of_pos hall] at hscan'
      rw [hword] at hname ⊢
      rw [List.takeWhile_append_of_pos hall]
      exact extends_name (List.cons_ne_nil c cs) hne hname hscan'
    · obtain ⟨htake, hdropped⟩ := takeWhile_append_of_dropWhile more hdrop
      rw [hdropped] at hscan'
      rw [htake]
      exact (ih hscan hscan').cons name

end Words

/-- The name that a segment can be read from. -/
def Segment.name : Segment → List Char
  | .root => ['$']
  | .current => ['@']
  | .length => "length".toList
  | .key name => name.toList
  | _ => []

/-- A name is known from the segment that it is read as. -/
theorem Segment.eq_name_of_ofWord {lenient : Bool} {build : ExprBuilder} {word : List Char}
    {s : Segment} (hne : word ≠ []) (hname : ∀ c ∈ word, Words.isNameChar c = true)
    (h : ofWord lenient build word = .ok s) : word = s.name := by
  unfold ofWord at h
  split at h
  · exact absurd rfl hne
  · cases h
    rfl
  · cases h
    rfl
  · exact absurd (hname '*' List.mem_cons_self) (by decide)
  · exact absurd (hname '.' List.mem_cons_self) (by decide)
  · exact absurd (hname '[' List.mem_cons_self) (by decide)
  · split at h
    · next hlength =>
      cases h
      exact hlength
    · split at h
      · cases h
      · cases h
        exact String.toList_ofList.symm

/-- Longer words are not read as the same segments. -/
theorem Words.Extends.not_mapM {lenient : Bool} {build : ExprBuilder} {words words' : List (List Char)}
    {segments : List Segment} (h : Extends words words')
    (hwords : words.mapM (Segment.ofWord lenient build) = .ok segments)
    (hwords' : words'.mapM (Segment.ofWord lenient build) = .ok segments) : False := by
  cases h with
  | more hlength =>
    rw [← length_of_mapM hwords, ← length_of_mapM hwords'] at hlength
    exact Nat.lt_irrefl _ hlength
  | @name front name tail hne htail hname =>
    obtain ⟨_, s, -, hs, rfl⟩ := mapM_concat_eq_ok.1 hwords
    obtain ⟨_, s', -, hs', he⟩ := mapM_concat_eq_ok.1 hwords'
    obtain ⟨-, he⟩ := List.append_inj' he rfl
    cases he
    have hfirst := Segment.eq_name_of_ofWord hne (fun c hc => hname c (List.mem_append_left _ hc)) hs
    have hboth := Segment.eq_name_of_ofWord (List.append_ne_nil_of_left_ne_nil hne tail) hname hs'
    exact htail (List.append_right_eq_self.1 (hboth.trans hfirst.symm))

namespace Expr

variable {lenient : Bool} {build : ExprBuilder} {anchor anchor' : Anchor} {cs more : List Char}
  {expr : Expr}

/-- A selector without white space at its end is cut to that end. -/
theorem exists_scan_of_ofSelector (htrim : trim cs = cs)
    (h : ofSelector lenient build anchor cs = .ok expr) :
    ∃ symbol rest words first segments, cs = symbol :: rest ∧ (symbol = '$' ∨ symbol = '@') ∧
      Words.scan 1 false rest = .ok (words, []) ∧
      words.mapM (Segment.ofWord lenient build) = .ok segments ∧
      expr = .selector anchor (first :: segments) := by
  obtain ⟨cut, hcut, h⟩ := bind_eq_ok.1 h
  obtain ⟨symbol, c, rest, rfl, hsymbol, -, hanchor⟩ := Words.eq_cons_of_ofSelector hcut
  obtain ⟨parts, dot, hparts⟩ := Words.exists_isCut_of_ofAnchor hanchor
  obtain ⟨⟨words, left⟩, hscan, he⟩ := bind_eq_ok.1 hanchor
  cases he
  split at h
  · next hblank =>
    have hleft : left = [] := by
      have htext := hparts.text
      rw [String.toList_ofList] at htext hblank
      rw [htext, ← List.cons_append] at htrim
      exact eq_nil_of_trim_append htrim (trim_eq_nil_iff.1 hblank)
    obtain ⟨path, hpath, he⟩ := bind_eq_ok.1 h
    cases he
    rw [Query.ofWords, List.map_cons, mapM_cons_eq_ok, List.mapM_map] at hpath
    simp only [Function.comp_def, String.toList_ofList] at hpath
    obtain ⟨first, segments, -, hsegments, rfl⟩ := hpath
    exact ⟨symbol, _, words, first, segments, rfl, hsymbol, hleft ▸ hscan, hsegments, rfl⟩
  · split at h <;> cases h

/-- A selector with more text behind it that may follow an operand is not the same selector. -/
theorem not_ofSelector_append (htrim : trim cs = cs) (htrim' : trim (cs ++ more) = cs ++ more)
    (hmore : FollowsOperand more) (h : ofSelector lenient build anchor cs = .ok expr)
    (h' : ofSelector lenient build anchor' (cs ++ more) = .ok expr) : False := by
  obtain ⟨symbol, rest, words, first, segments, rfl, -, hscan, hwords, rfl⟩ :=
    exists_scan_of_ofSelector htrim h
  obtain ⟨symbol', rest', words', first', segments', hcs, -, hscan', hwords', he⟩ :=
    exists_scan_of_ofSelector htrim' h'
  cases he
  obtain ⟨-, rfl⟩ := List.cons.inj hcs
  exact (Words.extends_of_scan hmore hscan hscan').not_mapM hwords hwords'

end Expr

end PathQuery
