/-!
# Operators and their priorities

The operators of expressions, the two anchors a selector can start from, and the order in
which an expression is searched for them.
-/

namespace PathQuery

/-- An operator of the expression language. -/
inductive Operator where
  | or
  | and
  | not
  | eq
  | ne
  | lt
  | le
  | gt
  | ge
  | matchPattern
  | add
  | sub
  | mul
  | div
  | mod
  | pow
deriving DecidableEq, Repr

namespace Operator

/-- How an operator is written. -/
def symbol : Operator → List Char
  | .or => ['|', '|']
  | .and => ['&', '&']
  | .not => ['!']
  | .eq => ['=', '=']
  | .ne => ['!', '=']
  | .lt => ['<']
  | .le => ['<', '=']
  | .gt => ['>']
  | .ge => ['>', '=']
  | .matchPattern => ['=', '~']
  | .add => ['+']
  | .sub => ['-']
  | .mul => ['*']
  | .div => ['/']
  | .mod => ['%']
  | .pow => ['*', '*']

/-- Negation is the only operator with one operand. -/
def isUnary (op : Operator) : Bool :=
  op = .not

theorem symbol_ne_nil (op : Operator) : op.symbol ≠ [] := by
  cases op <;> simp [symbol]

end Operator

/-- Where a selector inside an expression starts. -/
inductive Anchor where
  /-- The document, written `$`. -/
  | root
  /-- The value at hand, written `@`. -/
  | current
deriving DecidableEq, Repr

/-- How an anchor is written. -/
def Anchor.symbol : Anchor → Char
  | .root => '$'
  | .current => '@'

/-- What an expression can be split at. -/
inductive Priority where
  | operator (op : Operator)
  | selector (anchor : Anchor)
deriving DecidableEq, Repr

namespace Priority

/-- The text that is searched for. -/
def symbol : Priority → List Char
  | .operator op => op.symbol
  | .selector anchor => [anchor.symbol]

theorem symbol_ne_nil (p : Priority) : p.symbol ≠ [] := by
  cases p with
  | operator op => exact op.symbol_ne_nil
  | selector anchor => simp [symbol]

/-- The usual search order. What stands first binds most loosely. -/
def default : List Priority :=
  [.operator .or, .operator .and, .operator .eq, .operator .ne, .operator .le, .operator .ge,
    .operator .lt, .operator .gt, .operator .matchPattern, .operator .not, .operator .add,
    .operator .sub, .operator .pow, .operator .mul, .operator .div, .operator .mod,
    .selector .root, .selector .current]

end Priority

end PathQuery
