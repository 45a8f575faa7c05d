import PathQuery.Fault
import PathQuery.Number.Decimal
import PathQuery.Number.FloatText
import PathQuery.Operator
import PathQuery.Pattern.Reader
import PathQuery.Value.Document
import PathQuery.Value.Equality

/-!
# Operations on values

Arithmetic keeps integers as long as the result is one. Otherwise it is done on decimals, so
that `100 * 1.1` is `110`, and only where these cannot hold a number on floats. Strings that
spell numbers count as numbers, save that two strings are compared and joined as strings.
-/

namespace PathQuery

open Number Unicode

namespace Value

/-- The fault of an operand that is not what was expected. -/
def unfit (expected : Expected) (found : Value) : EvalFault :=
  .invalidArgument (if found matches .null then .nonNull else expected) (toString found)

/-- An operand as a number. -/
inductive Numeral where
  | integer (n : Int64)
  | float (x : Float)

/-- The value of a number. -/
def Numeral.toValue : Numeral → Value
  | .integer n => .integer n
  | .float x => .float x

/-- A number as a float. -/
def Numeral.toFloat : Numeral → Float
  | .integer n => Number.toFloat n
  | .float x => x

/-- The number that a text spells, blanks around it apart. -/
def readNumeral (cs : List Char) : Option Numeral :=
  match readInt64 (trim cs) with
  | some n => some (.integer n)
  | none => (readFloat (trim cs)).map .float

/-- An operand as a number: numbers as they are, strings by what they spell. -/
def toNumeral (v : Value) : Except EvalFault Numeral :=
  match v with
  | .integer n => .ok (.integer n)
  | .float x => .ok (.float x)
  | .string s =>
    match readNumeral s.toList with
    | some n => .ok n
    | none => .error (unfit .number v)
  | _ => .error (unfit .number v)

/-- An operand as an integer; a float must be whole. -/
def toInteger (v : Value) : Except EvalFault Int64 := do
  match (← toNumeral v).toValue.asInt? with
  | some n => return n
  | none => throw (unfit .integer v)

/-- An operand as a text: strings as they are, all else but null as JSON. -/
def toChars (v : Value) : Except EvalFault (List Char) :=
  match v with
  | .string s => .ok s.toList
  | .null => .error (unfit .string v)
  | _ => .ok v.text

/-! ## Arithmetic -/

/-- The five operations of arithmetic; what is left over in a division is not among them. -/
inductive Arithmetic where
  | add
  | sub
  | mul
  | div
  | pow
deriving DecidableEq, Repr

namespace Arithmetic

/-- An integer to the power of another, if the exponent has 32 bits and the result fits. -/
def intPower (a b : Int64) : Option Int64 :=
  let base := a.toInt
  let exponent := b.toInt
  if exponent < 0 ∨ 2 ^ (32 : Nat) ≤ exponent then none
  else if base.natAbs ≤ 1 then
    ofInt? (base ^ (if exponent = 0 then 0 else if exponent % 2 = 0 then 2 else 1 : Nat))
  else if 64 ≤ exponent then none
  else ofInt? (base ^ exponent.toNat)

/-- The result on integers, if it is an integer that fits. -/
def onIntegers (a b : Int64) : Arithmetic → Option Int64
  | .add => ofInt? (a.toInt + b.toInt)
  | .sub => ofInt? (a.toInt - b.toInt)
  | .mul => ofInt? (a.toInt * b.toInt)
  | .div => if a.toInt.tmod b.toInt = 0 then ofInt? (a.toInt.tdiv b.toInt) else none
  | .pow => intPower a b

/-- The result on decimals, if there is one. -/
def onDecimals (D : DecimalPackage) (a b : Decimal) : Arithmetic → Option Decimal
  | .add => D.add a b
  | .sub => D.sub a b
  | .mul => D.mul a b
  | .div => D.div a b
  | .pow => none

/-- The result on floats. -/
def onFloats (a b : Float) : Arithmetic → Float
  | .add => a + b
  | .sub => a - b
  | .mul => a * b
  | .div => a / b
  | .pow => a.pow b

/-- A decimal as a value: an integer if it is whole and fits, and a float otherwise. -/
def ofDecimal (D : DecimalPackage) (d : Decimal) : Value :=
  match (D.toInt? d).bind ofInt? with
  | some n => .integer n
  | none => .float (D.toFloat d)

/-- The result on floats that goes through decimals where they can hold the numbers. -/
def viaDecimals (D : DecimalPackage) (op : Arithmetic) (a b : Float) : Value :=
  let result? := do op.onDecimals D (← D.ofFloat a) (← D.ofFloat b)
  match result? with
  | some d => ofDecimal D d
  | none => .float (op.onFloats a b)

/-- The result on two numbers. -/
def applyBy (D : DecimalPackage) (op : Arithmetic) (a b : Numeral) : Except EvalFault Value :=
  if op = .div ∧ b.toFloat == 0 then .error .divisionByZero
  else match a, b with
    | .integer m, .integer n =>
      match op.onIntegers m n with
      | some k => .ok (.integer k)
      | none => .ok (op.viaDecimals D a.toFloat b.toFloat)
    | _, _ => .ok (op.viaDecimals D a.toFloat b.toFloat)

/-- The result on two numbers with the decimals of this library. -/
def apply (op : Arithmetic) (a b : Numeral) : Except EvalFault Value :=
  op.applyBy Decimal.package a b

end Arithmetic

/-- The result of arithmetic on two operands. -/
def arithmetic (op : Arithmetic) (left right : Value) : Except EvalFault Value := do
  op.apply (← toNumeral left) (← toNumeral right)

/-- What is left over when one integer is divided by another, with the sign of the first. -/
def remainder (left right : Value) : Except EvalFault Value := do
  let a ← toInteger left
  let b ← toInteger right
  if b = 0 then throw .divisionByZero
  else if a = Int64.minValue ∧ b = -1 then throw (unfit .integer right)
  else return .integer (Int64.ofInt (a.toInt.tmod b.toInt))

/-! ## Comparison and matching -/

/-- How two operands compare; not at all if one of them is no number. -/
def order (left right : Value) : Except EvalFault (Option Ordering) :=
  match left, right with
  | .string a, .string b => .ok (some (compare a b))
  | _, _ => do
    let a ← toNumeral left
    let b ← toNumeral right
    return a.toFloat.toModel.compare b.toFloat.toModel

/-- A comparison, which is false if the operands do not compare. -/
def compareBy (accepts : Ordering → Bool) (left right : Value) : Except EvalFault Value := do
  return .bool ((← order left right).any accepts)

/-- The text between the slashes of a pattern, if it has them on both sides. -/
def patternBody (cs : List Char) : List Char :=
  match cs with
  | '/' :: rest => if rest.getLast? = some '/' then rest.dropLast else cs
  | _ => cs

/-- Whether a pattern occurs in a text, which `occurs?` says of whatever it takes for a pattern. -/
def matchBy (occurs? : List Char → List Char → Option Bool) (left right : Value) :
    Except EvalFault Value := do
  let text ← toChars left
  let source ← toChars right
  match occurs? (patternBody source) text with
  | some found => return .bool found
  | none => throw (.invalidPattern (String.ofList source))

/-- Whether a pattern occurs in a text with the patterns of this library. -/
def matchPattern (left right : Value) : Except EvalFault Value :=
  matchBy Pattern.occurs? left right

/-- The sum, or two strings joined. -/
def plus (left right : Value) : Except EvalFault Value :=
  match left, right with
  | .string a, .string b => .ok (.string (a ++ b))
  | _, _ => arithmetic .add left right

/-- Applies an operator to the values of both its operands. Those that look at their right
operand only if they have to, and the one with a single operand, are not among them. -/
def applyOperator (op : Operator) (left right : Value) : Except EvalFault Value :=
  match op with
  | .eq => .ok (.bool (left.looseEq right))
  | .ne => .ok (.bool (!left.looseEq right))
  | .lt => compareBy (· == .lt) left right
  | .le => compareBy (· != .gt) left right
  | .gt => compareBy (· == .gt) left right
  | .ge => compareBy (· != .lt) left right
  | .matchPattern => matchPattern left right
  | .add => plus left right
  | .sub => arithmetic .sub left right
  | .mul => arithmetic .mul left right
  | .div => arithmetic .div left right
  | .pow => arithmetic .pow left right
  | .mod => remainder left right
  | .or | .and | .not => .error (.query (.unsupportedOperator (String.ofList op.symbol)))

end Value

end PathQuery
