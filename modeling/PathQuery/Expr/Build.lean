import PathQuery.Expr.LiteralText
import PathQuery.Expr.Split
import PathQuery.Segment.Word
import PathQuery.Settings
import PathQuery.Words

/-!
# Building expressions

The text of an expression is split at the first place where the first operator of the
priority list that occurs in it can stand; both sides are built the same way. Parentheses
around the whole are dropped first, and what has no operator is a literal or a selector.

`step` is one such step over a builder for the smaller texts, and `build` ties the knot. It
calls itself on shorter texts only: every text that a step asks for is a proper part of the
text that the step is given.
-/

namespace PathQuery

open Unicode Text

namespace Expr

/-- The text inside parentheses that enclose the whole of a text. -/
def unwrap : List Char → Option (List Char)
  | '(' :: rest =>
    if rest.getLast? = some ')' ∧ parenthesesBalance 0 none rest.dropLast then
      some rest.dropLast
    else none
  | _ => none

/-- Whether a character is a punctuation character of ASCII. -/
def isPunctuation (c : Char) : Bool :=
  let n := c.toNat
  (33 ≤ n && n ≤ 47) || (58 ≤ n && n ≤ 64) || (91 ≤ n && n ≤ 96) || (123 ≤ n && n ≤ 126)

/-- Builds a selector, which must take up the whole text. -/
def ofSelector (lenient : Bool) (build : ExprBuilder) (anchor : Anchor) (cs : List Char) :
    Except QueryFault Expr := do
  let cut ← Words.ofSelector cs
  match trim cut.rest.toList with
  | [] => return .selector anchor (← Query.ofWords lenient build cut.words)
  | c :: rest =>
    if Words.isOperatorChar c || isPunctuation c then
      throw (.unsupportedOperator (String.ofList (c :: rest)))
    else throw (.badExpression (String.ofList cs) .textAfterSelector)

/-- Builds the right side of an operator. That of a match is always a literal. -/
def ofRight (build : ExprBuilder) (op : Operator) (right : List Char) :
    Except QueryFault (Option Expr) :=
  if op = .matchPattern then (Literal.read (trim right)).map fun value => some (.literal value)
  else build right

/-- Builds the expression for one way to split a text, if both sides can stand alone. A left
side that cannot be built is no fault: the operator may belong to the right operand, as the
sign in `2 * -3` does. -/
def ofSplit (lenient : Bool) (build : ExprBuilder) (cs : List Char) :
    Priority × List Char × List Char → Except QueryFault (Option Expr)
  | (.selector anchor, left, _) =>
    if isBlank left then (ofSelector lenient build anchor cs).map some else .ok none
  | (.operator op, left, right) =>
    if isBlank right then .ok none
    else if op.isUnary then
      if isBlank left then (build right).map fun operand => operand.map (.unary op) else .ok none
    else if isBlank left then .ok none
    else match build left with
      | .ok (some left) =>
        (ofRight build op right).map fun right => right.map (.binary op left)
      | _ => .ok none

/-- The first result of a search, or the first fault. -/
def firstResult {α β ε : Type} (f : α → Except ε (Option β)) : List α → Except ε (Option β)
  | [] => .ok none
  | x :: rest =>
    match f x with
    | .ok none => firstResult f rest
    | result => result

/-- Builds a text that is trimmed, not empty and not in parentheses. -/
def ofParts (settings : Settings) (build : ExprBuilder) (cs : List Char) :
    Except QueryFault (Option Expr) := do
  match ← firstResult (ofSplit settings.lenient build cs)
      (Split.candidates settings.priorities cs) with
  | some expr => return some expr
  | none => return some (.literal (← Literal.read cs))

/-- One step of building an expression over a builder for smaller texts. A blank text gives
no expression. -/
def step (settings : Settings) (build : ExprBuilder) (cs : List Char) :
    Except QueryFault (Option Expr) :=
  match trim cs with
  | [] => .ok none
  | c :: rest =>
    match unwrap (c :: rest) with
    | some inner => build inner
    | none => ofParts settings build (c :: rest)

/-- Builds an expression from its text. A blank text gives no expression. -/
def build (settings : Settings) (cs : List Char) : Except QueryFault (Option Expr) :=
  step settings (fun part => if part.length < cs.length then build settings part else .ok none) cs
termination_by cs.length

/-- Reads an expression. A blank text gives no expression. -/
def ofText (settings : Settings) (text : String) : Except QueryFault (Option Expr) :=
  build settings text.toList

end Expr

/-- Reads a word as a segment. -/
def Segment.ofText (settings : Settings) (word : String) : Except QueryFault Segment :=
  Segment.ofWord settings.lenient (Expr.build settings) word.toList

/-- Reads words as the segments of a query. -/
def Query.ofList (settings : Settings) (words : List String) : Except QueryFault Query :=
  Query.ofWords settings.lenient (Expr.build settings) words

/-- Compiles a query. -/
def Query.compile (settings : Settings) (path : String) : Except QueryFault Query := do
  let cut ← Words.ofQuery path.toList
  if cut.rest.isEmpty then Query.ofList settings cut.words
  else throw (.trailingText cut.rest)

end PathQuery
