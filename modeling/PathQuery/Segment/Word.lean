import PathQuery.Query.Basic
import PathQuery.Segment.Argument

/-!
# Segments from words

A word is read as the segment it stands for. Expressions within it are built by a function
that the reader is given, because an expression may hold words again.
-/

namespace PathQuery

open Unicode Text Number

/-- Turns the text of an expression into a tree, or into nothing when the text is blank. -/
abbrev ExprBuilder := List Char → Except QueryFault (Option Expr)

namespace Segment

/-- Builds an expression that must not be blank. -/
def buildExpr (build : ExprBuilder) (text : List Char) : Except QueryFault Expr := do
  match ← build text with
  | some expr => return expr
  | none => throw (.badExpression (String.ofList text) .empty)

/-- The segment of a single argument. -/
def ofArgument (build : ExprBuilder) (segment : String) :
    Option Argument → Except QueryFault Segment
  | none => .error (.badSegment segment .emptyBrackets)
  | some (.quoted name) => .ok (.key (String.ofList name))
  | some (.expression text) => (buildExpr build text).map .script
  | some (.bare text) =>
    if text = ['*'] then .ok .wildcard
    else match readInt64 text with
      | some n => .ok (.index n)
      | none => .error (.badSegment segment .badSubscript)

/-- The member of a union for one argument. -/
def memberOfArgument (build : ExprBuilder) (segment : String) :
    Option Argument → Except QueryFault Member
  | none => .error (.badSegment segment .emptyMember)
  | some (.quoted name) => .ok (.key (String.ofList name))
  | some (.expression text) => (buildExpr build text).map .computed
  | some (.bare text) =>
    match readInt64 text with
    | some n => .ok (.index n)
    | none => .error (.badSegment segment .badMember)

/-- The end of a slice for one argument. -/
def boundOfArgument (build : ExprBuilder) (segment : String) :
    Option Argument → Except QueryFault (Option Bound)
  | none => .ok none
  | some (.quoted _) => .error (.badSegment segment .badBound)
  | some (.expression text) => (buildExpr build text).map fun expr => some (.computed expr)
  | some (.bare text) =>
    match readInt64 text with
    | some n => .ok (some (.literal n))
    | none => .error (.badSegment segment .badBound)

/-- The segment of the arguments and separators between brackets. -/
def ofArguments (build : ExprBuilder) (segment : String) (arguments : List (Option Argument))
    (separators : List Char) : Except QueryFault Segment :=
  if separators.isEmpty then ofArgument build segment arguments.head?.join
  else if separators.all (· = ',') then
    (arguments.mapM (memberOfArgument build segment)).map .union
  else if separators.all (· = ':') then
    if 2 < separators.length then .error (.badSegment segment .tooManyColons)
    else do
      let bounds ← arguments.mapM (boundOfArgument build segment)
      return .range bounds[0]?.join bounds[1]?.join bounds[2]?.join
  else .error (.badSegment segment .mixedSeparators)

/-- The filter segment for the text after its question mark. -/
def ofFilter (segment : String) : List Char → Except QueryFault Segment
  | '(' :: rest =>
    match takeParenthesis 0 none rest with
    | none => .error (.badSegment segment .openParenthesis)
    | some (text, after) =>
      if !after.isEmpty then .error (.badSegment segment .textAfterFilter)
      else if isBlank text then .error (.badExpression (String.ofList text) .emptyFilter)
      else .ok (.filter (String.ofList text))
  | _ => .error (.badSegment segment .filterForm)

/-- The segment of a word that starts with a bracket; `rest` is what follows the bracket. -/
def ofBracket (lenient : Bool) (build : ExprBuilder) (rest : List Char) :
    Except QueryFault Segment :=
  let segment := String.ofList ('[' :: rest)
  if rest.getLast? = some ']' then
    match rest.dropLast with
    | '?' :: clause => ofFilter segment clause
    | inner => do
      let (arguments, separators) ← Argument.split lenient segment none false inner
      ofArguments build segment arguments separators
  else .error (.badSegment segment .unbalanced)

/-- The segment of a word. -/
def ofWord (lenient : Bool) (build : ExprBuilder) (word : List Char) :
    Except QueryFault Segment :=
  match word with
  | [] => .error (.badSegment "" .empty)
  | ['$'] => .ok .root
  | ['@'] => .ok .current
  | ['*'] => .ok .wildcard
  | ['.', '.'] => .ok .descent
  | '[' :: rest => ofBracket lenient build rest
  | _ =>
    if word = "length".toList then .ok .length
    else if (readInt64 word).isSome then .error (.integerKey (String.ofList word))
    else .ok (.key (String.ofList word))

end Segment

/-- The query of a list of words. -/
def Query.ofWords (lenient : Bool) (build : ExprBuilder) (words : List String) :
    Except QueryFault Query :=
  words.mapM fun word => Segment.ofWord lenient build word.toList

end PathQuery
