import PathQuery.Json.Basic
import PathQuery.Number.FloatText

/-!
# Writing JSON

The compact form has no blanks. The pretty form puts each member on a line of its own and
indents by two blanks; empty arrays and objects stay on one line.
-/

namespace PathQuery.Json

open Number

/-- A digit of the hexadecimal notation, in lower case. -/
def hexDigit (n : Nat) : Char :=
  Nat.digitChar (n % 16)

/-- A character as it stands in a string: quotes, backslashes and control characters are
escaped, all else stands for itself. -/
def escape (c : Char) : List Char :=
  if c = '"' then ['\\', '"']
  else if c = '\\' then ['\\', '\\']
  else if c = '\n' then ['\\', 'n']
  else if c = '\t' then ['\\', 't']
  else if c = '\r' then ['\\', 'r']
  else if c = '\x08' then ['\\', 'b']
  else if c = '\x0c' then ['\\', 'f']
  else if c.toNat < 0x20 then ['\\', 'u', '0', '0', hexDigit (c.toNat / 16), hexDigit c.toNat]
  else [c]

/-- A string in double quotes. -/
def quote (s : String) : List Char :=
  '"' :: (s.toList.flatMap escape ++ ['"'])

/-- A float; JSON has no form for those that are not finite. -/
def floatText (x : Float) : List Char :=
  if x.isFinite then FloatStyle.document.write x else "null".toList

mutual

/-- The compact form. -/
def text : Json → List Char
  | .null => "null".toList
  | .bool true => "true".toList
  | .bool false => "false".toList
  | .integer n => intText n
  | .float x => floatText x
  | .string s => quote s
  | .array items => '[' :: (itemsText items ++ [']'])
  | .object members => '\x7b' :: (membersText members ++ ['\x7d'])

/-- Array elements with commas between them. -/
def itemsText : List Json → List Char
  | [] => []
  | [item] => text item
  | item :: next :: rest => text item ++ ',' :: itemsText (next :: rest)

/-- Object members with commas between them. -/
def membersText : List (String × Json) → List Char
  | [] => []
  | [(key, value)] => quote key ++ ':' :: text value
  | (key, value) :: next :: rest =>
    quote key ++ ':' :: (text value ++ ',' :: membersText (next :: rest))

end

/-- The compact form as a string. -/
def compact (j : Json) : String :=
  String.ofList j.text

/-- The start of a line that is indented `depth` times. -/
def newline (depth : Nat) : List Char :=
  '\n' :: List.replicate (2 * depth) ' '

mutual

/-- The pretty form of a document that stands in a line indented `depth` times. -/
def prettyText (depth : Nat) : Json → List Char
  | .array [] => ['[', ']']
  | .array (item :: rest) =>
    '[' :: (prettyItems (depth + 1) (item :: rest) ++ newline depth ++ [']'])
  | .object [] => ['\x7b', '\x7d']
  | .object (member :: rest) =>
    '\x7b' :: (prettyMembers (depth + 1) (member :: rest) ++ newline depth ++ ['\x7d'])
  | .null => "null".toList
  | .bool true => "true".toList
  | .bool false => "false".toList
  | .integer n => intText n
  | .float x => floatText x
  | .string s => quote s

/-- Array elements, one a line. -/
def prettyItems (depth : Nat) : List Json → List Char
  | [] => []
  | [item] => newline depth ++ prettyText depth item
  | item :: next :: rest =>
    newline depth ++ prettyText depth item ++ ',' :: prettyItems depth (next :: rest)

/-- Object members, one a line. -/
def prettyMembers (depth : Nat) : List (String × Json) → List Char
  | [] => []
  | [(key, value)] => newline depth ++ quote key ++ ": ".toList ++ prettyText depth value
  | (key, value) :: next :: rest =>
    newline depth ++ quote key ++ ": ".toList ++ prettyText depth value ++
      ',' :: prettyMembers depth (next :: rest)

end

/-- The pretty form as a string. -/
def pretty (j : Json) : String :=
  String.ofList (j.prettyText 0)

end PathQuery.Json
