import PathQuery.Fault
import PathQuery.Query.Basic
import PathQuery.Text.Quoted
import PathQuery.Unicode.Alphanumeric
import PathQuery.Value.Document

/-!
# Literals

A literal is a constant by name, a number, a string in quotes, a pattern between slashes, a
JSON array or object, or a bare word, which stands for itself as a string. Patterns are
strings that keep their slashes.
-/

namespace PathQuery

open Number Text Unicode

namespace Literal

/-- Whether a text may be a number: after an optional sign it starts with a digit or a point
and holds nothing but digits, at least one, and the other characters of numbers. -/
def looksNumeric (cs : List Char) : Bool :=
  let digits := match cs with
    | c :: rest => if c = '-' ∨ c = '+' then rest else cs
    | [] => []
  (digits.head?.any fun c => c.isDigit || c = '.') && digits.any Char.isDigit &&
    digits.all fun c => c.isDigit || c ∈ ['.', 'e', 'E', '+', '-']

/-- The characters of bare words. -/
def isWordChar (c : Char) : Bool :=
  isAlphanumeric c || c ∈ ['_', '-', '.']

/-- Reads a literal that is neither a constant nor a number. -/
def readForm (cs : List Char) : Except QueryFault Literal :=
  let fault flaw := Except.error (.badExpression (String.ofList cs) flaw)
  match cs with
  | [] => fault .unrecognised
  | c :: rest =>
    if isQuote c then
      match readLiteral c rest with
      | some s => .ok (.string (String.ofList s))
      | none => fault .openString
    else if c = '/' ∧ rest.getLast? = some '/' then .ok (.string (String.ofList cs))
    else if c = '[' ∨ c = '\x7b' then
      match Value.ofText? (String.ofList cs) with
      | some v => .ok (.json v)
      | none => fault .malformedJson
    else if cs.all isWordChar then .ok (.string (String.ofList cs))
    else fault .unrecognised

/-- Reads a literal. A float must be finite, because an infinity could not be written back. -/
def read (cs : List Char) : Except QueryFault Literal :=
  if cs = "nil".toList ∨ cs = "null".toList then .ok .null
  else if cs = "true".toList then .ok (.bool true)
  else if cs = "false".toList then .ok (.bool false)
  else match readInt64 cs with
    | some n => .ok (.integer n)
    | none =>
      match if looksNumeric cs then readFloat cs else none with
      | some x =>
        if x.isFinite then .ok (.float x)
        else .error (.badExpression (String.ofList cs) .numberRange)
      | none => readForm cs

end Literal

end PathQuery
