import PathQuery.Fault
import PathQuery.Text.Balanced

/-!
# Words of a path

A path is cut into words, one for each segment: the anchor, names between dots, `..`, `*`,
and bracketed parts whole. Outside brackets the path ends at the first operator of the
expression language or white space; what stands from there on is handed back as the rest.
-/

namespace PathQuery

open Unicode Text

/-- A path cut into words, and the text after the path. -/
structure Words where
  words : List String
  rest : String
deriving DecidableEq, Repr

namespace Words

/-- The characters of the expression language that end a path outside brackets. -/
def isOperatorChar (c : Char) : Bool :=
  c ∈ ['+', '-', '/', '%', '>', '<', '=', '!', '*']

/-- The characters that a name consists of. -/
def isNameChar (c : Char) : Bool :=
  !(c = '.' || c = '[' || c = ']' || isOperatorChar c || isSpace c)

/-- Whether a single dot may stand before this text: it has to lead somewhere. -/
def leads : List Char → Bool
  | [] => false
  | c :: _ => c ≠ ']' && !isSpace c

/-- Whether an asterisk after a dot ends its segment before this text and so is a wildcard. -/
def endsWildcard : List Char → Bool
  | [] => true
  | c :: _ => c = '.' || c = '[' || (c ≠ '*' && (isOperatorChar c || isSpace c))

/-- Cuts the text after the anchor. `position` is that of its first character, and `afterDot`
tells whether a dot stands before it. -/
def scan (position : Nat) (afterDot : Bool) (cs : List Char) :
    Except QueryFault (List (List Char) × List Char) :=
  match cs with
  | [] => .ok ([], [])
  | c :: rest =>
    if c = '.' then
      match rest with
      | '.' :: rest => do
        let (words, rest) ← scan (position + 2) true rest
        return (['.', '.'] :: words, rest)
      | rest =>
        if leads rest then scan (position + 1) true rest
        else .error (.unexpectedCharacter '.' position)
    else if c = '[' then
      match _h : takeBracket 0 none rest with
      | none => .error (.openBracket position)
      | some (taken, rest) => do
        let (words, rest) ← scan (position + 1 + taken.length) false rest
        return (('[' :: taken) :: words, rest)
    else if c = ']' then .error (.unexpectedCharacter ']' position)
    else if c = '*' ∧ afterDot ∧ endsWildcard rest then do
      let (words, rest) ← scan (position + 1) false rest
      return (['*'] :: words, rest)
    else if isOperatorChar c || isSpace c then .ok ([], c :: rest)
    else do
      let name := c :: rest.takeWhile isNameChar
      let (words, rest) ← scan (position + name.length) false (rest.dropWhile isNameChar)
      return (name :: words, rest)
termination_by cs.length
decreasing_by
  all_goals simp only [List.length_cons]
  · omega
  · omega
  · have := length_takeBracket _h; omega
  · omega
  · have := length_dropWhile_le isNameChar rest; omega

/-- The words of a text that starts with an anchor. -/
def ofAnchor (anchor : Char) (cs : List Char) : Except QueryFault Words := do
  let (words, rest) ← scan 1 false cs
  return ⟨(([anchor] :: words).map String.ofList), String.ofList rest⟩

/-- Cuts a query, which must start with `$`. -/
def ofQuery : List Char → Except QueryFault Words
  | [] => .error .emptyQuery
  | '$' :: rest =>
    match rest with
    | c :: _ => if c = '.' ∨ c = '[' then ofAnchor '$' rest else .error (.badAfterAnchor '$' c)
    | [] => ofAnchor '$' []
  | '@' :: _ => .error .currentAtTop
  | c :: _ => .error (.badStart c)

/-- Cuts a selector within an expression, which may also start with `@` and must go on after
its anchor. -/
def ofSelector : List Char → Except QueryFault Words
  | [] => .error .emptyQuery
  | anchor :: rest =>
    if anchor = '$' ∨ anchor = '@' then
      match rest with
      | c :: _ =>
        if c = '.' ∨ c = '[' then ofAnchor anchor rest else .error (.badAfterAnchor anchor c)
      | [] => .error (.bareAnchor anchor)
    else .error (.badStart anchor)

end Words

end PathQuery
