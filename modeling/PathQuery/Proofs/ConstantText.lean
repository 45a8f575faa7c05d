import PathQuery.Proofs.CanonicalText

/-!
# Reading the text of a constant

The canonical text of a constant reads back. For floats and documents this is as much as their
own notations do so: `Literal.ReadsBack` says it for the one constant.
-/

namespace PathQuery

open Number Text

namespace Text

theorem readLiteral_quote (cs : List Char) :
    readLiteral '\'' (cs.flatMap escapeQuote ++ ['\'']) = some cs := by
  induction cs with
  | nil => rfl
  | cons c cs ih =>
    by_cases hc : c = '\'' ∨ c = '\\'
    · have hescape : literalEscape c = c := by rcases hc with rfl | rfl <;> rfl
      rw [List.flatMap_cons, escapeQuote, if_pos hc]
      simp [readLiteral, ih, hescape]
    · have hb : c ≠ '\\' := fun e => hc (.inr e)
      have hq : c ≠ '\'' := fun e => hc (.inl e)
      rw [List.flatMap_cons, escapeQuote, if_neg hc, List.append_assoc, List.singleton_append,
        readLiteral.eq_4 _ _ _ (by simp [hb]) (by simp [hb])]
      simp [hq, ih]

end Text

namespace Literal

/-- Whether a constant comes back from its text, where that is up to the notation of floats or of
documents. -/
def ReadsBack : Literal → Prop
  | .float x => readFloat (FloatStyle.literal.write x) = some x
  | .json v => Value.ofText? (String.ofList v.text) = some v
  | _ => True

/-- Whether a text that starts with this character may be a constant by name or a number. -/
def startsPlain (c : Char) : Bool :=
  c ∈ ['n', 't', 'f', '-', '+', '.'] || c.isDigit

theorem read_of_head {c : Char} (hc : startsPlain c = false) (rest : List Char) :
    read (c :: rest) = readForm (c :: rest) := by
  rw [startsPlain, Bool.or_eq_false_iff, decide_eq_false_iff_not] at hc
  obtain ⟨hmem, hdigit⟩ := hc
  simp only [List.mem_cons, List.not_mem_nil, or_false, not_or] at hmem
  obtain ⟨hn, ht, hf, hminus, hplus, hpoint⟩ := hmem
  have hint : readInt64 (c :: rest) = none :=
    readInt64_cons_eq_none hminus hplus (by simpa using hdigit) rest
  have hnumeric : looksNumeric (c :: rest) = false := by
    simp [looksNumeric, hminus, hplus, hpoint, hdigit]
  rw [read, hint, hnumeric]
  simp [hn, ht, hf]

/-- A number is no constant by name. -/
theorem read_of_isDigit {c : Char} {rest : List Char} (hc : c.isDigit = true ∨ c = '-') :
    read (c :: rest) = match readInt64 (c :: rest) with
      | some n => .ok (.integer n)
      | none =>
        match if looksNumeric (c :: rest) then readFloat (c :: rest) else none with
        | some x =>
          if x.isFinite then .ok (.float x)
          else .error (.badExpression (String.ofList (c :: rest)) .numberRange)
        | none => readForm (c :: rest) := by
  have hne {d : Char} (hd : d.isDigit = false) (hd' : d ≠ '-') : c ≠ d := by
    rcases hc with hc | rfl
    · exact ne_of_isDigit hc hd
    · exact hd'.symm
  have hn : c ≠ 'n' := hne rfl (by decide)
  have ht : c ≠ 't' := hne rfl (by decide)
  have hf : c ≠ 'f' := hne rfl (by decide)
  have hnull : ¬(c :: rest = "nil".toList ∨ c :: rest = "null".toList) := by simp [hn]
  have htrue : c :: rest ≠ "true".toList := by simp [ht]
  have hfalse : c :: rest ≠ "false".toList := by simp [hf]
  rw [read, if_neg hnull, if_neg htrue]
  exact if_neg hfalse

/-- The text of a float is read as a number. -/
theorem read_write {x : Float} (h : x.isFinite = true) :
    read (FloatStyle.literal.write x) = match readFloat (FloatStyle.literal.write x) with
      | some y =>
        if y.isFinite then .ok (.float y)
        else .error (.badExpression (String.ofList (FloatStyle.literal.write x)) .numberRange)
      | none => readForm (FloatStyle.literal.write x) := by
  obtain ⟨body, hbody, hwrite⟩ := exists_write_eq h
  by_cases hsign : isSignNegative x = true
  · rw [if_pos hsign] at hwrite
    rw [hwrite, read_of_isDigit (.inr rfl), hbody.readInt64_eq_none.2, hbody.looksNumeric.2]
    rfl
  · rw [if_neg hsign] at hwrite
    obtain ⟨d, rest, hcons, hd⟩ := hbody.exists_cons
    rw [hcons] at hbody
    rw [hwrite, hcons, read_of_isDigit (.inl hd), hbody.readInt64_eq_none.1, hbody.looksNumeric.1]
    rfl

theorem readForm_ne_float {cs : List Char} {x : Float} : readForm cs ≠ .ok (.float x) := by
  intro h
  unfold readForm at h
  split at h
  · cases h
  · repeat' split at h
    all_goals cases h

/-- A container in JSON is read as JSON. -/
theorem read_json {v : Value} (h : v.isContainer = true) :
    read v.text = match Value.ofText? (String.ofList v.text) with
      | some v' => .ok (.json v')
      | none => .error (.badExpression (String.ofList v.text) .malformedJson) := by
  obtain ⟨c, rest, htext, hc⟩ : ∃ c rest, v.text = c :: rest ∧ (c = '[' ∨ c = '\x7b') := by
    obtain ⟨o, inner, c, htext, hends, -⟩ := Value.exists_text_of_isContainer h
    exact ⟨o, inner ++ [c], htext, hends.imp And.left And.left⟩
  have hstart : startsPlain c = false := by rcases hc with rfl | rfl <;> rfl
  have hquote : isQuote c = false := by rcases hc with rfl | rfl <;> rfl
  have hslash : ¬(c = '/' ∧ rest.getLast? = some '/') := by
    rintro ⟨rfl, -⟩
    rcases hc with hc | hc <;> exact absurd hc (by decide)
  have hquote' : ¬isQuote c = true := by rw [hquote]; exact Bool.false_ne_true
  rw [htext, read_of_head hstart]
  exact (if_neg hquote').trans ((if_neg hslash).trans (if_pos hc))

theorem read_text_iff {value : Literal} (h : value.WellFormed) :
    read value.text = .ok value ↔ value.ReadsBack := by
  cases value with
  | null => exact iff_of_true rfl trivial
  | bool b => cases b <;> exact iff_of_true rfl trivial
  | integer n =>
    have hread := readInt64_intText n
    refine iff_of_true ?_ trivial
    rw [text]
    cases htext : intText n.toInt with
    | nil => exact absurd htext (hasEnds_intText _).ne_nil
    | cons c rest =>
      have hc := mem_intText (n := n.toInt) (c := c) (by rw [htext]; exact List.mem_cons_self)
      rw [htext] at hread
      rw [read_of_isDigit hc, hread]
  | float x =>
    have hfinite : x.isFinite = true := h
    rw [text, read_write hfinite, ReadsBack]
    cases hread : readFloat (FloatStyle.literal.write x) with
    | none =>
      refine iff_of_false readForm_ne_float fun h => ?_
      cases h
    | some y =>
      dsimp only
      constructor
      · intro hy
        split at hy
        · cases hy; rfl
        · cases hy
      · intro hy
        cases hy
        exact if_pos hfinite
  | string s =>
    have hquote : isQuote '\'' = true := rfl
    refine iff_of_true ?_ trivial
    rw [text, quote, read_of_head rfl, readForm]
    simp only [hquote, if_true, readLiteral_quote, String.ofList_toList]
  | json v =>
    rw [text, read_json h, ReadsBack]
    cases hread : Value.ofText? (String.ofList v.text) with
    | none => exact iff_of_false (fun h => by cases h) fun h => by cases h
    | some v' => simp only [Except.ok.injEq, json.injEq, Option.some.injEq]

end Literal

end PathQuery
