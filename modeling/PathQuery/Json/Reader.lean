import PathQuery.Json.Basic
import PathQuery.Number.FloatText

/-!
# Reading JSON

The grammar is the strict one: no comments, no trailing commas, no leading zeros, no raw
control characters in strings, and surrogate escapes only in pairs. Containers nest at most
127 deep. A number that is no 64-bit integer, signed or unsigned, is read as a float, and so
is a negative zero; a float that is too large is refused.
-/

namespace PathQuery.Json

open Number

/-- How many arrays and objects may stand inside one another. -/
def maxNesting : Nat := 127

/-- Drops blanks from the front. -/
def skipBlanks (cs : List Char) : List Char :=
  cs.dropWhile fun c => c == ' ' || c == '\n' || c == '\t' || c == '\r'

/-- The value of a hexadecimal digit. -/
def hexDigit? (c : Char) : Option Nat :=
  if c.isDigit then some (c.toNat - '0'.toNat)
  else if 'a' ≤ c ∧ c ≤ 'f' then some (c.toNat - 'a'.toNat + 10)
  else if 'A' ≤ c ∧ c ≤ 'F' then some (c.toNat - 'A'.toNat + 10)
  else none

/-- The number that four hexadecimal digits write. -/
def hexUnit? (a b c d : Char) : Option Nat := do
  return ((← hexDigit? a) * 16 + (← hexDigit? b)) * 256 + (← hexDigit? c) * 16 + (← hexDigit? d)

/-- The character of an escape with one letter. -/
def simpleEscape? : Char → Option Char
  | '"' => some '"'
  | '\\' => some '\\'
  | '/' => some '/'
  | 'b' => some '\x08'
  | 'f' => some '\x0c'
  | 'n' => some '\n'
  | 'r' => some '\r'
  | 't' => some '\t'
  | _ => none

/-- Reads a string after its opening quote, up to and with the closing one. `pending` is the
first half of a surrogate pair; its second half must follow at once. -/
def readString (pending : Option Nat) : List Char → Option (List Char × List Char)
  | [] => none
  | '\\' :: 'u' :: a :: b :: c :: d :: rest => do
    let unit ← hexUnit? a b c d
    let isHigh := 0xD800 ≤ unit ∧ unit < 0xDC00
    let isLow := 0xDC00 ≤ unit ∧ unit < 0xE000
    match pending with
    | some high =>
      if isLow then
        let (text, rest) ← readString none rest
        some (Char.ofNat (0x10000 + (high - 0xD800) * 0x400 + (unit - 0xDC00)) :: text, rest)
      else none
    | none =>
      if isHigh then readString (some unit) rest
      else if isLow then none
      else
        let (text, rest) ← readString none rest
        some (Char.ofNat unit :: text, rest)
  | '\\' :: e :: rest =>
    if pending.isSome then none
    else do
      let c ← simpleEscape? e
      let (text, rest) ← readString none rest
      some (c :: text, rest)
  | c :: rest =>
    if pending.isSome then none
    else if c = '"' then some ([], rest)
    else if c = '\\' ∨ c.toNat < 0x20 then none
    else do
      let (text, rest) ← readString none rest
      some (c :: text, rest)

/-- Reads an exponent after its letter: an optional sign and at least one digit. -/
def readExponentDigits (cs : List Char) : Option (Int × List Char) :=
  let (negative, cs) := match cs with
    | '-' :: rest => (true, rest)
    | '+' :: rest => (false, rest)
    | cs => (false, cs)
  let digits := cs.takeWhile Char.isDigit
  if digits.isEmpty then none
  else
    let n : Int := Nat.ofDigitChars 10 digits 0
    some (if negative then -n else n, cs.dropWhile Char.isDigit)

/-- Reads the fraction and the exponent of a number; `none` inside when there is neither. -/
def readFraction (cs : List Char) : Option (Option (List Char × Int) × List Char) :=
  let fraction? := match cs with
    | '.' :: rest =>
      let digits := rest.takeWhile Char.isDigit
      if digits.isEmpty then none else some (some digits, rest.dropWhile Char.isDigit)
    | cs => some (none, cs)
  fraction?.bind fun (fraction, rest) =>
    match rest with
    | c :: after =>
      if c = 'e' ∨ c = 'E' then
        (readExponentDigits after).map fun (e, rest) => (some (fraction.getD [], e), rest)
      else some (fraction.map (·, 0), rest)
    | [] => some (fraction.map (·, 0), rest)

/-- The float of a decimal number, if it is finite. It is the nearest one. A reader that gives up
precision for speed may be a unit in the last place off where a number has many digits or a large
exponent; no result here depends on which float is read. -/
def finite? (negative : Bool) (digits : List Char) (exponent : Int) : Option Json :=
  let x := scientific (Nat.ofDigitChars 10 digits 0) exponent
  if x.isFinite then some (.float (if negative then -x else x)) else none

/-- A number without fraction and exponent. -/
def whole? (negative : Bool) (digits : List Char) : Option Json :=
  let n : Int := Nat.ofDigitChars 10 digits 0
  let n := if negative then -n else n
  if negative && n == 0 then some (.float (-0.0))
  else if -(2 ^ (63 : Nat)) ≤ n ∧ n < 2 ^ (64 : Nat) then some (.integer n)
  else finite? negative digits 0

/-- Reads a number after its sign. -/
def readNumber (negative : Bool) (cs : List Char) : Option (Json × List Char) :=
  let digits := cs.takeWhile Char.isDigit
  if digits.isEmpty || (digits.length != 1 && digits.head? == some '0') then none
  else (readFraction (cs.dropWhile Char.isDigit)).bind fun (tail, rest) =>
    match tail with
    | none => (whole? negative digits).map (·, rest)
    | some (fraction, exponent) =>
      (finite? negative (digits ++ fraction) (exponent - fraction.length)).map (·, rest)

mutual

/-- Reads one value from the front of a text. Every second step consumes a character, so that
twice the length of the text is enough fuel. -/
def readValue : Nat → Nat → List Char → Option (Json × List Char)
  | 0, _, _ => none
  | fuel + 1, nesting, cs =>
    match skipBlanks cs with
    | 'n' :: 'u' :: 'l' :: 'l' :: rest => some (.null, rest)
    | 't' :: 'r' :: 'u' :: 'e' :: rest => some (.bool true, rest)
    | 'f' :: 'a' :: 'l' :: 's' :: 'e' :: rest => some (.bool false, rest)
    | '"' :: rest => (readString none rest).map fun (s, rest) => (.string (.ofList s), rest)
    | '-' :: rest => readNumber true rest
    | '[' :: rest =>
      match nesting with
      | 0 => none
      | nesting + 1 =>
        match skipBlanks rest with
        | ']' :: rest => some (.array [], rest)
        | rest => (readItems fuel nesting rest).map fun (items, rest) => (.array items, rest)
    | '\x7b' :: rest =>
      match nesting with
      | 0 => none
      | nesting + 1 =>
        match skipBlanks rest with
        | '\x7d' :: rest => some (.object [], rest)
        | rest => (readMembers fuel nesting rest).map fun (members, rest) =>
          (.object (Fields.ofList members), rest)
    | cs => readNumber false cs

/-- Reads the elements of an array up to and with its closing bracket. -/
def readItems : Nat → Nat → List Char → Option (List Json × List Char)
  | 0, _, _ => none
  | fuel + 1, nesting, cs =>
    (readValue fuel nesting cs).bind fun (item, rest) =>
      match skipBlanks rest with
      | ',' :: rest => (readItems fuel nesting rest).map fun (items, rest) => (item :: items, rest)
      | ']' :: rest => some ([item], rest)
      | _ => none

/-- Reads the members of an object up to and with its closing brace. -/
def readMembers : Nat → Nat → List Char → Option (List (String × Json) × List Char)
  | 0, _, _ => none
  | fuel + 1, nesting, cs =>
    match skipBlanks cs with
    | '"' :: rest =>
      (readString none rest).bind fun (key, rest) =>
        match skipBlanks rest with
        | ':' :: rest =>
          (readValue fuel nesting rest).bind fun (value, rest) =>
            match skipBlanks rest with
            | ',' :: rest => (readMembers fuel nesting rest).map fun (members, rest) =>
              ((.ofList key, value) :: members, rest)
            | '\x7d' :: rest => some ([(.ofList key, value)], rest)
            | _ => none
        | _ => none
    | _ => none

end

/-- Reads a whole text as one document. -/
def ofChars? (cs : List Char) : Option Json :=
  (readValue (2 * cs.length + 2) maxNesting cs).bind fun (j, rest) =>
    if (skipBlanks rest).isEmpty then some j else none

/-- Reads a document. -/
def ofString? (text : String) : Option Json :=
  ofChars? text.toList

/-- Reads a document from bytes, which must be UTF-8. -/
def ofBytes? (bytes : ByteArray) : Option Json :=
  (String.fromUTF8? bytes).bind ofString?

end PathQuery.Json
