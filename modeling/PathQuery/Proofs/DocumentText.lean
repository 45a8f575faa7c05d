import PathQuery.Proofs.Nesting
import PathQuery.Proofs.NumberText

/-!
# Written documents are balanced

Numbers are written without brackets, parentheses and quotes, and a document closes those that it
opens. So a document can stand in brackets or parentheses and be found again.
-/

namespace PathQuery

open Number Text

/-! ## Numbers -/

theorem isPlain_of_isDigit {c : Char} (h : c.isDigit = true) : isPlain c = true := by
  have hne {d : Char} (hd : d.isDigit = false) : c ≠ d := ne_of_isDigit h hd
  simp [isPlain, isOpening, isClosing, isQuote, hne]

theorem balanced_intText (n : Int) : Balanced (intText n) := by
  refine .of_forall fun c hc => ?_
  rcases mem_intText hc with hc | rfl
  · exact isPlain_of_isDigit hc
  · rfl

namespace Number

theorem IsDigits.balanced {cs : List Char} (h : IsDigits cs) : Balanced cs :=
  .of_forall fun c hc => isPlain_of_isDigit (h.isDigit c hc)

theorem balanced_layOut (style : FloatStyle) (x : Scientific) : Balanced (style.layOut x) := by
  have hdigits := isDigits_natText x.coefficient
  have hpart {part : List Char} (h : ∀ c ∈ part, c ∈ natText x.coefficient) : Balanced part :=
    .of_forall fun c hc => isPlain_of_isDigit (hdigits.isDigit c (h c hc))
  have hzeros (n : Nat) : Balanced (List.replicate n '0') :=
    .of_forall fun c hc => by rw [List.eq_of_mem_replicate hc]; rfl
  unfold FloatStyle.layOut
  dsimp only
  split
  · unfold FloatStyle.positional
    dsimp only
    split
    · exact ((Balanced.of_all rfl).append (hzeros _)).append hdigits.balanced
    · split
      · exact (hdigits.balanced.append (hzeros _)).append (.of_all rfl)
      · exact (hpart fun c hc => List.mem_of_mem_take hc).append
          (.cons rfl (hpart fun c hc => List.mem_of_mem_drop hc))
  · unfold FloatStyle.exponential
    have hdrop : Balanced ((natText x.coefficient).drop 1) :=
      hpart fun c hc => List.mem_of_mem_drop hc
    have hsign (b : Bool) : Balanced (if b then ['+'] else []) := by
      cases b
      · exact .nil
      · exact .of_all rfl
    have hexponent : Balanced ('e' :: ((if style.plus && 0 ≤ x.exponent +
        (natText x.coefficient).length - 1 then ['+'] else []) ++
          intText (x.exponent + (natText x.coefficient).length - 1))) :=
      .cons rfl ((hsign _).append (balanced_intText _))
    dsimp only
    split
    · exact ((hpart fun c hc => List.mem_of_mem_take hc).append .nil).append hexponent
    · exact ((hpart fun c hc => List.mem_of_mem_take hc).append (.cons rfl hdrop)).append hexponent

theorem balanced_write (style : FloatStyle) (x : Float) : Balanced (style.write x) := by
  have hsign (s : Float.Model.UnpackedFloat.Sign) : Balanced (FloatStyle.sign s) := by
    cases s with
    | positive => exact .nil
    | negative => exact .of_all rfl
  unfold FloatStyle.write
  split
  · exact .of_all rfl
  · exact (hsign _).append (.of_all rfl)
  · exact (hsign _).append (.of_all rfl)
  · exact (hsign _).append (balanced_layOut _ _)

end Number

/-! ## Documents -/

namespace Json

theorem hidden_escape (c : Char) : Hidden '"' (escape c) := by
  unfold escape
  by_cases hquote : c = '"'
  · rw [if_pos hquote]
    exact .escape _ .nil
  rw [if_neg hquote]
  by_cases hb : c = '\\'
  · rw [if_pos hb]
    exact .escape _ .nil
  rw [if_neg hb]
  -- whatever is escaped otherwise is a letter or four hexadecimal digits behind a backslash
  have hdigits : ∀ n < 16, Nat.digitChar n ≠ '\\' ∧ Nat.digitChar n ≠ '"' := by decide
  have hdigit (n : Nat) : hexDigit n ≠ '\\' ∧ hexDigit n ≠ '"' :=
    hdigits _ (Nat.mod_lt _ (by decide))
  have hsingle : Hidden '"' [c] := .cons hb hquote .nil
  repeat' split
  all_goals first
    | exact hsingle
    | exact .escape _ .nil
    | exact .escape _ (.cons (by decide) (by decide) (.cons (by decide) (by decide)
        (.cons (hdigit _).1 (hdigit _).2 (.cons (hdigit _).1 (hdigit _).2 .nil))))

theorem balanced_quote (s : String) : Balanced (quote s) :=
  .of_hidden (.flatMap hidden_escape _) rfl

mutual

theorem balanced_text : ∀ j : Json, Balanced (text j)
  | .null => .of_all rfl
  | .bool true => .of_all rfl
  | .bool false => .of_all rfl
  | .integer n => balanced_intText n
  | .float x => by
    rw [text, floatText]
    split
    · exact balanced_write _ x
    · exact .of_all rfl
  | .string s => balanced_quote s
  | .array items => (balanced_itemsText items).bracketed
  | .object members => (balanced_membersText members).braced

theorem balanced_itemsText : ∀ items : List Json, Balanced (itemsText items)
  | [] => .nil
  | [item] => balanced_text item
  | item :: next :: rest => (balanced_text item).append (.cons rfl (balanced_itemsText (next :: rest)))

theorem balanced_membersText : ∀ members : List (String × Json), Balanced (membersText members)
  | [] => .nil
  | [(key, value)] => (balanced_quote key).append (.cons rfl (balanced_text value))
  | (key, value) :: next :: rest =>
    (balanced_quote key).append (.cons rfl ((balanced_text value).append
      (.cons rfl (balanced_membersText (next :: rest)))))

end

end Json

end PathQuery
