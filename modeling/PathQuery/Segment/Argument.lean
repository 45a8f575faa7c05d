import PathQuery.Fault
import PathQuery.Text.Balanced
import PathQuery.Text.Quoted

/-!
# Arguments of a bracket segment

The text between brackets is a list of arguments with colons or commas between them. An
argument is a quoted key, a text in parentheses, or a bare word, and it may be missing.
-/

namespace PathQuery

open Unicode Text

/-- An argument of a bracket segment, by its form. -/
inductive Argument where
  | quoted (key : List Char)
  | expression (text : List Char)
  | bare (text : List Char)
deriving DecidableEq, Repr

namespace Argument

/-- Cuts the text between brackets at its colons and commas, which come second in the result.
`held` is the argument read so far, and `closed` says that it is complete. White space closes
an argument and is allowed only if `lenient`. -/
def split (lenient : Bool) (segment : String) (held : Option Argument) (closed : Bool)
    (cs : List Char) : Except QueryFault (List (Option Argument) × List Char) :=
  match cs with
  | [] => .ok ([held], [])
  | c :: rest =>
    if c = '(' then
      if held.isSome then .error (.badSegment segment .misplacedOpening)
      else match _h : takeParenthesis 0 none rest with
        | none => .error (.badSegment segment .openParenthesis)
        | some (text, rest) => split lenient segment (some (.expression text)) true rest
    else if isQuote c then
      if held.isSome then .error (.badSegment segment .misplacedOpening)
      else match _h : readKey c rest with
        | none => .error (.badSegment segment .openQuote)
        | some (key, rest) => split lenient segment (some (.quoted key)) true rest
    else if c = ':' ∨ c = ',' then do
      let (arguments, separators) ← split lenient segment none false rest
      return (held :: arguments, c :: separators)
    else if isSpace c then
      if lenient then split lenient segment held held.isSome rest
      else .error (.unexpectedSpace segment)
    else match held with
      | none => split lenient segment (some (.bare [c])) false rest
      | some (.bare text) =>
        if closed then .error (.badSegment segment .misplacedCharacter)
        else split lenient segment (some (.bare (text ++ [c]))) false rest
      | some _ => .error (.badSegment segment .misplacedCharacter)
termination_by cs.length
decreasing_by
  all_goals simp only [List.length_cons]
  · have := length_takeParenthesis _h; omega
  · have := length_readKey _h; omega
  all_goals omega

end Argument

end PathQuery
