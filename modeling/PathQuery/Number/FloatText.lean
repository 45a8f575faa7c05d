import PathQuery.Number.Binary
import PathQuery.Number.Integer
import PathQuery.Number.Shortest

/-!
# Floats as text

Writing lays out the shortest digits, positionally or with an exponent, as a `FloatStyle` says.
Reading takes the usual decimal notation and the names of the infinities and of the number
that is none.
-/

namespace PathQuery.Number

/-- How floats are laid out. -/
structure FloatStyle where
  /-- The least exponent of the leading digit that is written positionally. -/
  least : Int
  /-- The greatest exponent of the leading digit that is written positionally. -/
  greatest : Int
  /-- Whether an exponent that is not negative carries a plus sign. -/
  plus : Bool
  tie : Tie

/-- In documents: positional from `0.00001` up to 16 digits, and `1e+16` beyond. -/
def FloatStyle.document : FloatStyle := ⟨-5, 15, true, .toEven⟩

/-- In expressions: positional from `0.0001` up to 16 digits, and `1e16` beyond. -/
def FloatStyle.literal : FloatStyle := ⟨-4, 15, false, .up⟩

namespace FloatStyle

/-- Digits with the point after the first `1 + lead` of them. -/
def positional (digits : List Char) (lead : Int) : List Char :=
  if lead < 0 then "0.".toList ++ List.replicate (-lead - 1).toNat '0' ++ digits
  else
    let whole := lead.toNat + 1
    if digits.length ≤ whole then
      digits ++ List.replicate (whole - digits.length) '0' ++ ".0".toList
    else digits.take whole ++ '.' :: digits.drop whole

/-- Digits with the point after the first of them, and the exponent `lead`. -/
def exponential (style : FloatStyle) (digits : List Char) (lead : Int) : List Char :=
  let fraction := match digits.drop 1 with
    | [] => []
    | rest => '.' :: rest
  let sign := if style.plus && 0 ≤ lead then ['+'] else []
  digits.take 1 ++ fraction ++ 'e' :: (sign ++ intText lead)

/-- Writes a positive decimal number. -/
def layOut (style : FloatStyle) (x : Scientific) : List Char :=
  let digits := natText x.coefficient
  let lead := x.exponent + digits.length - 1
  if style.least ≤ lead ∧ lead ≤ style.greatest then positional digits lead
  else style.exponential digits lead

/-- A hyphen for a negative number. -/
def sign : Float.Model.UnpackedFloat.Sign → List Char
  | .positive => []
  | .negative => ['-']

/-- Writes a float. -/
def write (style : FloatStyle) (x : Float) : List Char :=
  match x.toModel.unpack with
  | .notANumber => "NaN".toList
  | .infinity s => sign s ++ "inf".toList
  | .zero s => sign s ++ "0.0".toList
  | .finite s mantissa exponent _ =>
    sign s ++ style.layOut (shortest style.tie mantissa exponent)

end FloatStyle

/-- Reads the exponent part of a number, which must be the end of the text. -/
def readExponent : List Char → Option Int
  | [] => some 0
  | c :: cs => if c = 'e' ∨ c = 'E' then readInt cs else none

/-- Reads digits with an optional point among them and an optional exponent. One side of the
point may be empty, but not both. -/
def readDecimal (cs : List Char) : Option Scientific :=
  let whole := cs.takeWhile Char.isDigit
  let (fraction, rest) := match cs.dropWhile Char.isDigit with
    | '.' :: rest => (rest.takeWhile Char.isDigit, rest.dropWhile Char.isDigit)
    | rest => ([], rest)
  if whole.isEmpty && fraction.isEmpty then none
  else (readExponent rest).map fun exponent =>
    ⟨Nat.ofDigitChars 10 (whole ++ fraction) 0, exponent - fraction.length⟩

/-- Reads a float without its sign. -/
def readMagnitude (cs : List Char) : Option Float :=
  match String.ofList (cs.map Char.toLower) with
  | "inf" | "infinity" => some (1.0 / 0.0)
  | "nan" => some (0.0 / 0.0)
  | _ => (readDecimal cs).map fun x => scientific x.coefficient x.exponent

/-- Reads a float, rounding to the nearest double; what is too large becomes an infinity. -/
def readFloat : List Char → Option Float
  | '-' :: cs => (readMagnitude cs).map (-·)
  | '+' :: cs => readMagnitude cs
  | cs => readMagnitude cs

end PathQuery.Number
