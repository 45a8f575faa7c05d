import PathQuery.Pattern.Basic
import PathQuery.Unicode.CaseFolding
import PathQuery.Unicode.GeneralCategory
import PathQuery.Unicode.Property
import PathQuery.Unicode.Script
import PathQuery.Unicode.Space

/-!
# Classes of characters

The classes that patterns can name: digits, white space and word characters, the classes of
ASCII, and the properties of the Unicode standard. Letters of either case are exchanged when
case is ignored.
-/

namespace PathQuery.CharSet

open Unicode

/-- What `\d`, `\s` and `\w` stand for. -/
inductive Shorthand where
  | digit
  | space
  | word
deriving DecidableEq, Repr

/-- The characters of ASCII that words consist of. -/
def asciiWord : CharSet := fun c =>
  c.isAlphanum || c = '_'

/-- The characters that words consist of: letters, marks, decimal digits and what joins
them. -/
def wordChar : CharSet := fun c =>
  asciiWord c || Property.alphabetic.contains c || GeneralCategory.digits.contains c ||
    GeneralCategory.marks.any (·.contains c) || GeneralCategory.connectors.contains c ||
    Property.joinControl.contains c

/-- The characters of a shorthand, beyond ASCII only if `unicode`. -/
def Shorthand.set (unicode : Bool) : Shorthand → CharSet
  | .digit => if unicode then GeneralCategory.digits.contains else Char.isDigit
  | .space => if unicode then isSpace else fun c => c = ' ' || ('\t' ≤ c && c ≤ '\r')
  | .word => if unicode then wordChar else asciiWord

/-- The complement. -/
def compl (s : CharSet) : CharSet := fun c => !s c

/-- All characters from one to another. -/
def interval (low high : Char) : CharSet := fun c => low ≤ c && c ≤ high

/-- A class of ASCII by its name. -/
def ascii? : String → Option CharSet
  | "alnum" => some Char.isAlphanum
  | "alpha" => some Char.isAlpha
  | "ascii" => some fun c => c.toNat ≤ 0x7F
  | "blank" => some fun c => c = '\t' || c = ' '
  | "cntrl" => some fun c => c.toNat ≤ 0x1F || c.toNat = 0x7F
  | "digit" => some Char.isDigit
  | "graph" => some (interval '!' '~')
  | "lower" => some Char.isLower
  | "print" => some (interval ' ' '~')
  | "punct" => some fun c => interval '!' '~' c && !c.isAlphanum
  | "space" => some fun c => c = ' ' || ('\t' ≤ c && c ≤ '\r')
  | "upper" => some Char.isUpper
  | "word" => some asciiWord
  | "xdigit" => some fun c => c.isDigit || ('a' ≤ c && c ≤ 'f') || ('A' ≤ c && c ≤ 'F')
  | _ => none

/-- All characters that differ from a member only in case, and the members. -/
def foldCase (unicode : Bool) (s : CharSet) : CharSet := fun c =>
  if unicode then (CaseFolding.variants c).any s else s c || s c.toLower || s c.toUpper

/-- The name of a property or of one of its values without what does not count in it: case,
separators, a leading `is`, and what is not ASCII. -/
def plainName (name : List Char) : String :=
  let lower := (name.filter fun c => c.toNat ≤ 0x7F).map Char.toLower
  let strip := List.filter fun c => !(c = ' ' || c = '_' || c = '-')
  match lower with
  | 'i' :: 's' :: rest =>
    let rest := strip rest
    if rest = ['c'] then "isc" else String.ofList rest
  | _ => String.ofList (strip lower)

/-- The union of sets of ranges. -/
def ofRanges (sets : List RangeSet) : CharSet := fun c => sets.any (·.contains c)

/-- The characters of a general category, or of a group of them. -/
def category? (name : String) : Option CharSet :=
  let assigned := GeneralCategory.table.map Prod.fst
  match name with
  | "any" => some fun _ => true
  | "ascii" => some fun c => c.toNat ≤ 0x7F
  | "assigned" => some (ofRanges (GeneralCategory.union assigned))
  | "cn" | "unassigned" => some (compl (ofRanges (GeneralCategory.union assigned)))
  | "c" | "other" =>
    let others := assigned.filter fun short => short.toList.head? != some 'c'
    some (compl (ofRanges (GeneralCategory.union others)))
  | _ => (GeneralCategory.members? name).map fun members =>
    ofRanges (GeneralCategory.union members)

/-- The characters of a script. -/
def script? (name : String) : Option CharSet :=
  match name with
  | "unknown" | "zzzz" =>
    some (compl (ofRanges (Script.table.map fun entry => .ofText entry.2)))
  | _ => (Script.find? name).map fun set => set.contains

/-- What a single name in a property class stands for. Three abbreviations of general
categories are also those of properties without two values, and count as categories. -/
def named? (name : String) : Option CharSet :=
  let property? := if name ∈ ["cf", "sc", "lc"] then none else Property.find? name
  match property? with
  | some set => some set.contains
  | none => (category? name).or (script? name)

/-- Splits a text at the first place where a separator stands. -/
def splitAt? (separator : List Char) : List Char → Option (List Char × List Char)
  | [] => none
  | c :: rest =>
    if separator.isPrefixOf (c :: rest) then some ([], (c :: rest).drop separator.length)
    else (splitAt? separator rest).map fun (before, after) => (c :: before, after)

/-- What a property with a value stands for. -/
def valued? (property value : List Char) : Option CharSet :=
  match plainName property with
  | "gc" | "generalcategory" => category? (plainName value)
  | "sc" | "script" => script? (plainName value)
  | _ => none

/-- What the text of a property class stands for: a name, or a property and its value. -/
def property? (text : List Char) : Option CharSet :=
  match splitAt? ['!', '='] text with
  | some (property, value) => (valued? property value).map compl
  | none =>
    match (splitAt? [':'] text).or (splitAt? ['='] text) with
    | some (property, value) => valued? property value
    | none => named? (plainName text)

end PathQuery.CharSet
