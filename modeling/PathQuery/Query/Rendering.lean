import PathQuery.Query.Basic
import PathQuery.Text.Quoted
import PathQuery.Value.Document

/-!
# The canonical text of queries and expressions

Keys are always quoted and in brackets, so that `$.store.book[*].author` is written
`$['store']['book'][*]['author']`. Operands are in parentheses when they are operations
themselves or start with a minus sign, which would else be taken for a subtraction.
-/

namespace PathQuery

open Number Text

/-- The canonical text of a constant. -/
def Literal.text : Literal → List Char
  | .null => "null".toList
  | .bool true => "true".toList
  | .bool false => "false".toList
  | .integer n => intText n.toInt
  | .float x => FloatStyle.literal.write x
  | .string s => quote s.toList
  | .json v => v.text

/-- Whether an expression is put in parentheses when it is an operand. -/
def Expr.isGrouped : Expr → Bool
  | .unary _ _ | .binary _ _ _ => true
  | .literal (.integer n) => n < 0
  | .literal (.float x) => isSignNegative x
  | _ => false

/-- Puts a text in parentheses. -/
def parenthesised (cs : List Char) : List Char :=
  '(' :: (cs ++ [')'])

/-- Puts a text in brackets. -/
def bracketed (cs : List Char) : List Char :=
  '[' :: (cs ++ [']'])

mutual

/-- The canonical text of an expression. -/
def Expr.text : Expr → List Char
  | .literal value => value.text
  | .selector _ path => Segment.pathText path
  | .unary op operand =>
    op.symbol ++ (if operand.isGrouped then parenthesised operand.text else operand.text)
  | .binary op left right =>
    (if left.isGrouped then parenthesised left.text else left.text) ++
      ' ' :: (op.symbol ++
        ' ' :: (if right.isGrouped then parenthesised right.text else right.text))

/-- The canonical text of a segment. -/
def Segment.text : Segment → List Char
  | .root => ['$']
  | .current => ['@']
  | .wildcard => ['[', '*', ']']
  | .descent => ['.', '.']
  | .key name => bracketed (quote name.toList)
  | .index n => bracketed (intText n.toInt)
  | .length => ".length".toList
  | .range start stop step =>
    bracketed (Bound.optionText start ++ ':' :: (Bound.optionText stop ++
      match step with
      | none => []
      | some step => ':' :: step.text))
  | .union members => bracketed (Member.listText members)
  | .filter text => bracketed ('?' :: parenthesised text.toList)
  | .script expr => bracketed (parenthesised expr.text)

/-- The canonical text of a list of segments. -/
def Segment.pathText : List Segment → List Char
  | [] => []
  | segment :: rest => segment.text ++ Segment.pathText rest

/-- The canonical text of an end of a slice. -/
def Bound.text : Bound → List Char
  | .literal n => intText n.toInt
  | .computed expr => parenthesised expr.text

/-- The canonical text of an end of a slice that may be absent. -/
def Bound.optionText : Option Bound → List Char
  | none => []
  | some bound => bound.text

/-- The canonical text of a member of a union. -/
def Member.text : Member → List Char
  | .index n => intText n.toInt
  | .key name => quote name.toList
  | .computed expr => parenthesised expr.text

/-- The canonical text of the members of a union, with commas between them. -/
def Member.listText : List Member → List Char
  | [] => []
  | [member] => member.text
  | member :: next :: rest => member.text ++ ',' :: Member.listText (next :: rest)

end

/-- The canonical text of a query. -/
def Query.text (query : Query) : List Char :=
  Segment.pathText query

/-- The canonical text of a query as a string. -/
def Query.render (query : Query) : String :=
  String.ofList query.text

/-- The canonical text of a segment as a string. -/
def Segment.render (segment : Segment) : String :=
  String.ofList segment.text

/-- The canonical text of an expression as a string. -/
def Expr.render (expr : Expr) : String :=
  String.ofList expr.text

theorem Segment.pathText_append (p q : List Segment) :
    pathText (p ++ q) = pathText p ++ pathText q := by
  induction p with
  | nil => simp [pathText]
  | cons segment rest ih => simp [pathText, ih]

end PathQuery
