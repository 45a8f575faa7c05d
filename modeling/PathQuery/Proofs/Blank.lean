import Mathlib.Data.List.TakeWhile
import PathQuery.Unicode.Space

/-!
# Trimming

What trimming leaves starts and ends with a character that is not white space, and a text that
does so already is left alone.
-/

namespace PathQuery.Unicode

variable {cs : List Char}

theorem trimStart_eq_nil_iff : trimStart cs = [] ↔ isBlank cs = true := by
  rw [trimStart, isBlank, List.dropWhile_eq_nil_iff, List.all_eq_true]

theorem isSpace_of_trimStart_eq_cons {c : Char} {rest : List Char} (h : trimStart cs = c :: rest) :
    isSpace c = false := by
  induction cs with
  | nil => cases h
  | cons x xs ih =>
    rw [trimStart, List.dropWhile_cons] at h
    split at h
    · exact ih h
    · next hx =>
      cases h
      simpa using hx

/-- Trimming at the end keeps what the text starts with. -/
theorem trimEnd_cons {c : Char} (hc : isSpace c = false) (rest : List Char) :
    trimEnd (c :: rest) = c :: trimEnd rest := by
  have hdrop : (rest.reverse ++ [c]).dropWhile isSpace =
      rest.reverse.dropWhile isSpace ++ [c] := by
    rw [List.dropWhile_append]
    split
    · next h =>
      rw [List.isEmpty_iff] at h
      rw [h, List.dropWhile_cons_of_neg (by simp [hc])]
      rfl
    · rfl
  rw [trimEnd, trimEnd, List.reverse_cons, hdrop, List.reverse_append]
  rfl

theorem trim_eq_nil_iff : trim cs = [] ↔ isBlank cs = true := by
  constructor
  · intro h
    cases hstart : trimStart cs with
    | nil => exact trimStart_eq_nil_iff.1 hstart
    | cons c rest =>
      rw [trim, hstart, trimEnd_cons (isSpace_of_trimStart_eq_cons hstart)] at h
      cases h
  · intro h
    rw [trim, trimStart_eq_nil_iff.2 h]
    rfl

theorem isSpace_of_trim_eq_cons {c : Char} {rest : List Char} (h : trim cs = c :: rest) :
    isSpace c = false := by
  cases hstart : trimStart cs with
  | nil => rw [trim, hstart] at h; cases h
  | cons x xs =>
    have hx := isSpace_of_trimStart_eq_cons hstart
    rw [trim, hstart, trimEnd_cons hx] at h
    cases h
    exact hx

/-- A blank text in front of something that is not white space is empty. -/
theorem eq_nil_of_isBlank {left rest right : List Char} {c : Char} (hblank : isBlank left = true)
    (hc : isSpace c = false) (h : left ++ right = c :: rest) : left = [] := by
  cases left with
  | nil => rfl
  | cons x xs =>
    cases h
    rw [isBlank, List.all_cons, hc] at hblank
    cases hblank

theorem trim_cons_space : trim (' ' :: cs) = trim cs := rfl

theorem trim_append_left {blank : List Char} (h : isBlank blank = true) :
    trim (blank ++ cs) = trim cs := by
  rw [trim, trim, trimStart, List.dropWhile_append_of_pos (List.all_eq_true.1 h), trimStart]

theorem trim_append_right {blank : List Char} (h : isBlank blank = true) :
    trim (cs ++ blank) = trim cs := by
  have hend (ds : List Char) : trimEnd (ds ++ blank) = trimEnd ds := by
    rw [trimEnd, List.reverse_append, List.dropWhile_append_of_pos, trimEnd]
    exact fun c hc => List.all_eq_true.1 h c (List.mem_reverse.1 hc)
  rw [trim, trim, trimStart, List.dropWhile_append]
  split
  · next hblank =>
    rw [List.isEmpty_iff] at hblank
    have hdrop : blank.dropWhile isSpace = [] := trimStart_eq_nil_iff.2 h
    rw [trimStart, hblank, hdrop]
  · exact hend _

/-- Trimming takes away a blank text at either end. -/
theorem exists_eq_append_trim (cs : List Char) :
    ∃ front back, isBlank front = true ∧ isBlank back = true ∧ cs = front ++ trim cs ++ back := by
  have hblank (ds : List Char) : isBlank (ds.takeWhile isSpace) = true := List.all_takeWhile
  refine ⟨cs.takeWhile isSpace, ((trimStart cs).reverse.takeWhile isSpace).reverse, hblank cs, ?_, ?_⟩
  · rw [isBlank, List.all_reverse]
    exact hblank _
  · rw [List.append_assoc, trim, trimEnd, ← List.reverse_append, List.takeWhile_append_dropWhile,
      List.reverse_reverse, trimStart, List.takeWhile_append_dropWhile]

theorem infix_trim (cs : List Char) : trim cs <:+: cs := by
  obtain ⟨front, back, -, -, hcs⟩ := exists_eq_append_trim cs
  exact ⟨front, back, hcs.symm⟩

/-- A text with something other than white space at both ends stays as it is. -/
theorem trim_eq_self {c d : Char} (hhead : cs.head? = some c) (hc : isSpace c = false)
    (hlast : cs.getLast? = some d) (hd : isSpace d = false) : trim cs = cs := by
  obtain ⟨rest, rfl⟩ := List.head?_eq_some_iff.1 hhead
  rw [trim, trimStart, List.dropWhile_cons_of_neg (by simp [hc])]
  obtain ⟨front, hfront⟩ := List.getLast?_eq_some_iff.1 hlast
  rw [hfront, trimEnd, List.reverse_append, List.reverse_singleton, List.singleton_append,
    List.dropWhile_cons_of_neg (by simp [hd]), List.reverse_cons, List.reverse_reverse]

/-- A trimmed text has no white space at its end. -/
theorem eq_nil_of_trim_append {blank : List Char} (h : trim (cs ++ blank) = cs ++ blank)
    (hblank : isBlank blank = true) : blank = [] := by
  rw [trim_append_right hblank] at h
  have hlength := congrArg List.length h
  have hle := length_trim_le cs
  rw [List.length_append] at hlength
  exact List.length_eq_zero_iff.1 (by omega)

theorem trim_trim (cs : List Char) : trim (trim cs) = trim cs := by
  obtain ⟨front, back, hfront, hback, hcs⟩ := exists_eq_append_trim cs
  have htrim := congrArg trim hcs
  rw [trim_append_right hback, trim_append_left hfront] at htrim
  exact htrim.symm

/-- Only white space in front of a text is dropped. -/
theorem trimStart_append_of_head? {front : List Char} (hfront : isBlank front = true)
    (hcs : ∀ c ∈ cs.head?, isSpace c = false) : trimStart (front ++ cs) = cs := by
  rw [trimStart, List.dropWhile_append_of_pos (List.all_eq_true.1 hfront)]
  cases cs with
  | nil => rfl
  | cons c cs => exact List.dropWhile_cons_of_neg (by simp [hcs c rfl])

end PathQuery.Unicode
