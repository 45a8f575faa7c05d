import PathQuery.Operator
import PathQuery.Text.Balanced

/-!
# Splitting an expression at an operator

An operator counts only where it is not inside quotes, brackets, parentheses, braces, or a
pattern between slashes, and where it is not a part of something longer: of another operator,
of a wildcard, or of the exponent of a number.
-/

namespace PathQuery.Split

open Unicode Text

/-- Characters, each with a mark that tells whether an operator may stand there. -/
abbrev Marked := List (Char × Bool)

/-- Whether a pattern may start after this text, which is given backwards. -/
def expectsPattern (before : List Char) : Bool :=
  match trimStart before with
  | '~' :: '=' :: _ => true
  | _ => false

/-- Marks the characters of an expression. `before` is the text already passed, backwards;
`depth` counts the open brackets, and `closing` is the character that ends the present string
or pattern. -/
def mark (before : List Char) (depth : Nat) (closing : Option Char) : List Char → Marked
  | [] => []
  | c :: rest =>
    match closing with
    | some q =>
      if c = '\\' then
        match rest with
        | [] => [(c, false)]
        | d :: rest => (c, false) :: (d, false) :: mark (d :: c :: before) depth (some q) rest
      else (c, false) :: mark (c :: before) depth (if c = q then none else some q) rest
    | none =>
      if isQuote c then (c, false) :: mark (c :: before) depth (some c) rest
      else if isOpening c then (c, false) :: mark (c :: before) (depth + 1) none rest
      else if isClosing c then (c, false) :: mark (c :: before) (depth - 1) none rest
      else if c = '/' ∧ depth = 0 ∧ expectsPattern before then
        (c, false) :: mark (c :: before) depth (some '/') rest
      else (c, depth = 0) :: mark (c :: before) depth none rest

/-- Takes an operator from the front of a text where all of it may stand. -/
def afterSymbol? : List Char → Marked → Option Marked
  | [], rest => some rest
  | s :: symbol, (c, true) :: rest => if s = c then afterSymbol? symbol rest else none
  | _ :: _, _ => none

/-- Whether a sign after this text, which is given backwards, belongs to an exponent. -/
def inExponent (before : List Char) : Bool :=
  match before with
  | e :: d :: _ => (e = 'e' || e = 'E') && d.isDigit
  | _ => false

/-- Whether an operator between these texts, the first of them backwards, is no part of
something longer. -/
def standsAlone (symbol before after : List Char) : Bool :=
  match symbol with
  | ['!'] | ['<'] | ['>'] => after.head? != some '='
  | ['*'] => after.head? != some '*' && before.head? != some '*' && before.head? != some '.'
  | ['+'] | ['-'] => !inExponent before
  | _ => true

/-- The texts on both sides of an operator, for each place where it counts, from the left. -/
def sides (symbol : List Char) (before : List Char) : Marked → List (List Char × List Char)
  | [] => []
  | (c, marked) :: rest =>
    let later := sides symbol (c :: before) rest
    match afterSymbol? symbol ((c, marked) :: rest) with
    | none => later
    | some after =>
      let after := after.map Prod.fst
      if standsAlone symbol before after then (before.reverse, after) :: later else later

/-- The ways to split an expression, in the order of the priorities. -/
def candidates (priorities : List Priority) (cs : List Char) :
    List (Priority × List Char × List Char) :=
  let marked := mark [] 0 none cs
  priorities.flatMap fun p => (sides p.symbol [] marked).map (p, ·)

theorem map_fst_mark (before : List Char) (depth : Nat) (closing : Option Char)
    (cs : List Char) : (mark before depth closing cs).map Prod.fst = cs := by
  fun_induction mark before depth closing cs <;> simp_all

theorem append_afterSymbol {symbol : List Char} {cs rest : Marked}
    (h : afterSymbol? symbol cs = some rest) :
    cs.map Prod.fst = symbol ++ rest.map Prod.fst := by
  fun_induction afterSymbol? symbol cs <;> simp_all

/-- Both sides and the operator between them make up the text. -/
theorem append_of_mem_sides {symbol before left right : List Char} {cs : Marked}
    (h : (left, right) ∈ sides symbol before cs) :
    left ++ symbol ++ right = before.reverse ++ cs.map Prod.fst := by
  induction cs generalizing before with
  | nil => simp [sides] at h
  | cons x rest ih =>
    obtain ⟨c, marked⟩ := x
    simp only [sides] at h
    split at h
    · simpa using ih h
    · next after hafter =>
      split at h
      · rcases List.mem_cons.1 h with h | h
        · rw [Prod.mk.injEq] at h
          rw [append_afterSymbol hafter, h.1, h.2, List.append_assoc]
        · simpa using ih h
      · simpa using ih h

/-- A split takes nothing away but the operator. -/
theorem append_of_mem_candidates {priorities : List Priority} {cs left right : List Char}
    {p : Priority} (h : (p, left, right) ∈ candidates priorities cs) :
    left ++ p.symbol ++ right = cs := by
  simp only [candidates, List.mem_flatMap, List.mem_map] at h
  obtain ⟨q, -, x, hx, he⟩ := h
  obtain ⟨rfl, rfl⟩ := Prod.mk.injEq .. ▸ he
  simpa [map_fst_mark] using append_of_mem_sides hx

end PathQuery.Split
