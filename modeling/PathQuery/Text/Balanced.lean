import PathQuery.Text.Quoted
import PathQuery.Unicode.Space

/-!
# Balanced text

A bracket or a parenthesis ends where every one that was opened after it is closed again.
Text in quotes does not count, and in quotes a backslash hides the next character.
-/

namespace PathQuery.Text

/-- Whether a character opens a bracket, a parenthesis or a brace. -/
def isOpening (c : Char) : Bool :=
  c = '[' || c = '(' || c = '\x7b'

/-- Whether a character closes a bracket, a parenthesis or a brace. -/
def isClosing (c : Char) : Bool :=
  c = ']' || c = ')' || c = '\x7d'

/-- Reads on inside a bracket, up to and with the one that closes it; `depth` more are open
inside it. Any closing character closes the innermost, but the last must be a bracket. -/
def takeBracket (depth : Nat) (mark : Option Char) : List Char → Option (List Char × List Char)
  | [] => none
  | c :: rest =>
    match mark with
    | some q =>
      if c = '\\' then
        match rest with
        | [] => none
        | d :: rest => (takeBracket depth (some q) rest).map fun (taken, after) =>
          (c :: d :: taken, after)
      else
        (takeBracket depth (if c = q then none else some q) rest).map fun (taken, after) =>
          (c :: taken, after)
    | none =>
      if isClosing c then
        match depth with
        | 0 => if c = ']' then some ([c], rest) else none
        | depth + 1 => (takeBracket depth none rest).map fun (taken, after) => (c :: taken, after)
      else
        let depth := if isOpening c then depth + 1 else depth
        let mark := if isQuote c then some c else none
        (takeBracket depth mark rest).map fun (taken, after) => (c :: taken, after)

/-- Reads on inside a parenthesis up to the one that closes it; `depth` more are open inside
it. The closing one is dropped. -/
def takeParenthesis (depth : Nat) (mark : Option Char) :
    List Char → Option (List Char × List Char)
  | [] => none
  | c :: rest =>
    match mark with
    | some q =>
      if c = '\\' then
        match rest with
        | [] => none
        | d :: rest => (takeParenthesis depth (some q) rest).map fun (taken, after) =>
          (c :: d :: taken, after)
      else
        (takeParenthesis depth (if c = q then none else some q) rest).map fun (taken, after) =>
          (c :: taken, after)
    | none =>
      if c = ')' then
        match depth with
        | 0 => some ([], rest)
        | depth + 1 =>
          (takeParenthesis depth none rest).map fun (taken, after) => (c :: taken, after)
      else
        let depth := if c = '(' then depth + 1 else depth
        let mark := if isQuote c then some c else none
        (takeParenthesis depth mark rest).map fun (taken, after) => (c :: taken, after)

/-- Whether the parentheses of a text balance, so that none of it closes one that stands
before the text; `depth` more are open already. -/
def parenthesesBalance (depth : Nat) (mark : Option Char) : List Char → Bool
  | [] => depth = 0
  | c :: rest =>
    match mark with
    | some q =>
      if c = '\\' then
        match rest with
        | [] => depth = 0
        | _ :: rest => parenthesesBalance depth (some q) rest
      else parenthesesBalance depth (if c = q then none else some q) rest
    | none =>
      if c = ')' then
        match depth with
        | 0 => false
        | depth + 1 => parenthesesBalance depth none rest
      else
        parenthesesBalance (if c = '(' then depth + 1 else depth)
          (if isQuote c then some c else none) rest

theorem takeBracket_append {depth : Nat} {mark : Option Char} {cs taken rest : List Char}
    (h : takeBracket depth mark cs = some (taken, rest)) : taken ++ rest = cs := by
  fun_induction takeBracket depth mark cs generalizing taken rest <;>
    grind [Option.map_eq_some_iff]

theorem takeParenthesis_append {depth : Nat} {mark : Option Char} {cs taken rest : List Char}
    (h : takeParenthesis depth mark cs = some (taken, rest)) : taken ++ ')' :: rest = cs := by
  fun_induction takeParenthesis depth mark cs generalizing taken rest <;>
    grind [Option.map_eq_some_iff]

theorem takeBracket_ne_nil {depth : Nat} {mark : Option Char} {cs taken rest : List Char}
    (h : takeBracket depth mark cs = some (taken, rest)) : taken ≠ [] := by
  fun_induction takeBracket depth mark cs generalizing taken rest <;>
    grind [Option.map_eq_some_iff]

/-- What is left after a bracket is shorter than what was read. -/
theorem length_takeBracket {depth : Nat} {mark : Option Char} {cs taken rest : List Char}
    (h : takeBracket depth mark cs = some (taken, rest)) : rest.length < cs.length := by
  rw [← takeBracket_append h, List.length_append]
  have := List.length_pos_iff.2 (takeBracket_ne_nil h)
  omega

/-- What is left after a parenthesis is shorter than what was read. -/
theorem length_takeParenthesis {depth : Nat} {mark : Option Char} {cs taken rest : List Char}
    (h : takeParenthesis depth mark cs = some (taken, rest)) : rest.length < cs.length := by
  rw [← takeParenthesis_append h, List.length_append, List.length_cons]
  omega

end PathQuery.Text
