import PathQuery.Number.Integer
import PathQuery.Value.Basic

/-!
# Faults

Why a text is not a query, and why a query has no answer. Every fault belongs to one of a few
classes, which a caller can ask for without looking at the message.
-/

namespace PathQuery

/-- The classes of faults. -/
inductive FaultClass where
  | invalidSyntax
  | unsupportedOperator
  | invalidExpression
  | kindMismatch
  | keyNotFound
  | indexOutOfRange
  | invalidArgument
  | unexpectedResult
deriving DecidableEq, Repr

/-- What is wrong with a segment. -/
inductive SegmentFlaw where
  | empty
  | unbalanced
  | emptyBrackets
  | badSubscript
  | tooManyColons
  | mixedSeparators
  | filterForm
  | textAfterFilter
  | emptyMember
  | badMember
  | badBound
  | misplacedOpening
  | misplacedCharacter
  | openQuote
  | openParenthesis
deriving DecidableEq, Repr

/-- The wording of a segment's flaw. -/
def SegmentFlaw.reason : SegmentFlaw → String
  | .empty => "empty segment"
  | .unbalanced => "unbalanced brackets"
  | .emptyBrackets => "empty brackets"
  | .badSubscript => "expected an index, quoted key, or expression"
  | .tooManyColons => "a range takes at most two ':'"
  | .mixedSeparators => "cannot mix ':' and ','"
  | .filterForm => "a filter must be written ?(...)"
  | .textAfterFilter => "unexpected text after filter"
  | .emptyMember => "empty union member"
  | .badMember => "union members must be indices, quoted keys, or expressions"
  | .badBound => "range bounds must be integers or expressions"
  | .misplacedOpening => "unexpected quote or parenthesis"
  | .misplacedCharacter => "unexpected character in brackets"
  | .openQuote => "unterminated quoted key"
  | .openParenthesis => "unterminated parenthesis"

/-- What is wrong with an expression. -/
inductive ExpressionFlaw where
  | emptyFilter
  | empty
  | textAfterSelector
  | numberRange
  | openString
  | malformedJson
  | unrecognised
deriving DecidableEq, Repr

/-- The wording of an expression's flaw. -/
def ExpressionFlaw.reason : ExpressionFlaw → String
  | .emptyFilter => "empty filter"
  | .empty => "empty expression"
  | .textAfterSelector => "unexpected text after selector"
  | .numberRange => "number out of range"
  | .openString => "unterminated string literal"
  | .malformedJson => "malformed array or object literal"
  | .unrecognised => "unrecognised literal"

/-- Why a text is not a query. Positions count characters from the start. -/
inductive QueryFault where
  | emptyQuery
  | badStart (found : Char)
  | currentAtTop
  | badAfterAnchor (anchor found : Char)
  | bareAnchor (anchor : Char)
  | unexpectedCharacter (found : Char) (position : Nat)
  | openBracket (position : Nat)
  | badSegment (segment : String) (flaw : SegmentFlaw)
  | integerKey (word : String)
  | unexpectedSpace (segment : String)
  | trailingText (rest : String)
  | unsupportedOperator (text : String)
  | badExpression (text : String) (flaw : ExpressionFlaw)
deriving DecidableEq, Repr

namespace QueryFault

/-- The class of a fault. -/
def faultClass : QueryFault → FaultClass
  | .unsupportedOperator _ => .unsupportedOperator
  | .badExpression _ _ => .invalidExpression
  | _ => .invalidSyntax

/-- The wording of a fault. -/
def message : QueryFault → String
  | .emptyQuery => "empty query"
  | .badStart found => s!"query must start with '$' or '@', found '{found}'"
  | .currentAtTop => "'@' is only valid inside a filter or script expression"
  | .badAfterAnchor anchor found => s!"unexpected character '{found}' after '{anchor}'"
  | .bareAnchor anchor => s!"'{anchor}' inside an expression must be followed by '.' or '['"
  | .unexpectedCharacter found position =>
    s!"unexpected character '{found}' at position {position}"
  | .openBracket position => s!"unclosed '[' starting at position {position}"
  | .badSegment segment flaw => s!"invalid segment '{segment}': {flaw.reason}"
  | .integerKey word => s!"'{word}' is an index; indices require bracket form"
  | .unexpectedSpace segment => s!"unexpected whitespace in segment '{segment}'"
  | .trailingText rest => s!"unexpected trailing input '{rest}'"
  | .unsupportedOperator text => s!"unsupported operator in '{text}'"
  | .badExpression text flaw => s!"invalid expression '{text}': {flaw.reason}"

end QueryFault

/-- What was being done to a value of the wrong kind. -/
inductive Operation where
  | keyLookup
  | index
  | length
  | wildcard
  | range
  | unionKey
  | unionIndex
  | union
  | filter
deriving DecidableEq, Repr

/-- The wording of an operation. -/
def Operation.name : Operation → String
  | .keyLookup => "key lookup"
  | .index => "index"
  | .length => "length"
  | .wildcard => "wildcard"
  | .range => "range"
  | .unionKey => "union key"
  | .unionIndex => "union index"
  | .union => "union"
  | .filter => "filter"

/-- What an operand was expected to be. -/
inductive Expected where
  | number
  | integer
  | string
  | nonNull
  | nonZero
deriving DecidableEq, Repr

/-- The wording of an expectation. -/
def Expected.name : Expected → String
  | .number => "number"
  | .integer => "integer"
  | .string => "string"
  | .nonNull => "non-nil value"
  | .nonZero => "non-zero number"

/-- What the result of an expression was to be used as. -/
inductive ResultUse where
  | subscript
  | bound
deriving DecidableEq, Repr

/-- The wording of a use. -/
def ResultUse.name : ResultUse → String
  | .subscript => "a key or an index"
  | .bound => "an integer bound"

/-- The place in a bracket segment whose expression failed. -/
inductive Slot where
  | rangeStart
  | rangeStop
  | rangeStep
  | unionMember
deriving DecidableEq, Repr

/-- The wording of a place. -/
def Slot.name : Slot → String
  | .rangeStart => "range start"
  | .rangeStop => "range end"
  | .rangeStep => "range step"
  | .unionMember => "union member"

/-- Why a query has no answer. Values stand in faults by their JSON text. -/
inductive EvalFault where
  | query (fault : QueryFault)
  | kindMismatch (operation : Operation) (expected : List Value.Kind) (actual : Value.Kind)
  | keyNotFound (key : String)
  | keysNotFound (keys : List String)
  | indexOutOfRange (index : Int64) (size : Nat)
  | invalidArgument (expected : Expected) (found : String)
  | invalidPattern (pattern : String)
  | divisionByZero
  | unexpectedResult (use : ResultUse) (found : String)
  | within (slot : Slot) (cause : EvalFault)
  | tooDeep (limit : Nat)
deriving DecidableEq, Repr

namespace EvalFault

/-- The class of a fault. A failure within a slot has a class of its own. -/
def faultClass : EvalFault → FaultClass
  | .query fault => fault.faultClass
  | .kindMismatch _ _ _ => .kindMismatch
  | .keyNotFound _ | .keysNotFound _ => .keyNotFound
  | .indexOutOfRange _ _ => .indexOutOfRange
  | .invalidArgument _ _ | .invalidPattern _ | .divisionByZero | .tooDeep _ => .invalidArgument
  | .unexpectedResult _ _ | .within _ _ => .unexpectedResult

/-- The fault that caused the others. -/
def rootCause : EvalFault → EvalFault
  | .within _ cause => cause.rootCause
  | fault => fault

/-- Whether a fault, or one that caused it, is of a class. -/
def hasClass (c : FaultClass) : EvalFault → Bool
  | .within _ cause => c = .unexpectedResult || cause.hasClass c
  | fault => fault.faultClass = c

/-- The wording of a fault. -/
def message : EvalFault → String
  | .query fault => fault.message
  | .kindMismatch operation expected actual =>
    operation.name ++ " expects " ++ String.intercalate " or " (expected.map Value.Kind.name) ++
      ", got " ++ actual.name
  | .keyNotFound key => s!"key '{key}' not found"
  | .keysNotFound keys => "keys not found: " ++ String.intercalate ", " keys
  | .indexOutOfRange index size =>
    "index " ++ String.ofList (Number.intText index.toInt) ++ s!" out of range for length {size}"
  | .invalidArgument expected found =>
    s!"invalid argument: expected {expected.name}, got {found}"
  | .invalidPattern pattern => s!"invalid regular expression '{pattern}'"
  | .divisionByZero => "division by zero"
  | .unexpectedResult use found => s!"expression result {found} cannot be used as {use.name}"
  | .within slot cause => slot.name ++ ": " ++ cause.message
  | .tooDeep limit => s!"host value nesting exceeds depth {limit}"

end EvalFault

end PathQuery
