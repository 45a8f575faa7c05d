import PathQuery.Number.Integer
import PathQuery.Pattern.CharClass

/-!
# Reading patterns

The usual syntax of regular expressions: alternatives, groups, repetitions, classes, anchors,
word boundaries and flags. There are no references back and no looking around. What has no
meaning is refused, above all an escaped letter or digit without one, and a brace that starts
no repetition. All that the operators ask is `occurs?`, and no result uses more of it than that
the answer is a Boolean or none.
-/

namespace PathQuery.Pattern

open Number

/-- What is switched on or off within a pattern. -/
structure Flags where
  /-- Letters match in either case. -/
  ignoreCase : Bool := false
  /-- The anchors `^` and `$` match at the ends of lines. -/
  multiLine : Bool := false
  /-- A dot matches the end of a line too. -/
  dotAll : Bool := false
  /-- A carriage return ends a line too. -/
  returns : Bool := false
  /-- Classes go beyond ASCII. -/
  unicode : Bool := true
  /-- Blanks and comments between the parts of the pattern do not count. -/
  extended : Bool := false

/-- A part of a pattern that stands for itself. -/
inductive Atom where
  | literal (c : Char)
  | set (s : CharSet)
  | condition (l : Look)

/-- Skips blanks and comments, if they do not count. -/
def skip (flags : Flags) (cs : List Char) : List Char :=
  if flags.extended then go false cs else cs
where
  go (inComment : Bool) : List Char → List Char
    | [] => []
    | c :: rest =>
      if inComment then go (c != '\n') rest
      else if Unicode.isSpace c then go false rest
      else if c = '#' then go true rest
      else c :: rest

/-! ## Escapes -/

/-- The value of a hexadecimal digit. -/
def hexDigit? (c : Char) : Option Nat :=
  if c.isDigit then some (c.toNat - '0'.toNat)
  else if 'a' ≤ c ∧ c ≤ 'f' then some (c.toNat - 'a'.toNat + 10)
  else if 'A' ≤ c ∧ c ≤ 'F' then some (c.toNat - 'A'.toNat + 10)
  else none

/-- The character with a code, if there is one. -/
def charOfCode? (n : Nat) : Option Char :=
  if n.isValidChar then some (Char.ofNat n) else none

/-- Reads exactly `count` hexadecimal digits. -/
def readDigits (flags : Flags) (value : Nat) : Nat → List Char → Option (Nat × List Char)
  | 0, cs => some (value, cs)
  | count + 1, c :: rest =>
    (hexDigit? c).bind fun d => readDigits flags (16 * value + d) count (skip flags rest)
  | _ + 1, [] => none

/-- The text up to a closing brace, and what follows it. -/
def upToBrace (cs : List Char) : Option (List Char × List Char) :=
  match cs.dropWhile (· != '\x7d') with
  | _ :: rest => some (cs.takeWhile (· != '\x7d'), rest)
  | [] => none

/-- Drops blanks within braces, if they do not count. -/
def dropBlanks (flags : Flags) (cs : List Char) : List Char :=
  if flags.extended then cs.filter fun c => !Unicode.isSpace c else cs

/-- Reads the code of a character: `count` digits, or any number of them in braces. Without
Unicode, two digits are a byte, which must be ASCII. -/
def readCode (flags : Flags) (count : Nat) (cs : List Char) : Option (Atom × List Char) :=
  match skip flags cs with
  | '\x7b' :: rest => do
    let (digits, rest) ← upToBrace rest
    let digits := dropBlanks flags digits
    if digits.isEmpty then none
    else
      let values ← digits.mapM hexDigit?
      let c ← charOfCode? (values.foldl (fun n d => 16 * n + d) 0)
      some (.literal c, skip flags rest)
  | cs => do
    let (n, rest) ← readDigits flags 0 count cs
    if !flags.unicode && count == 2 && 0x7F < n then none
    else (charOfCode? n).map fun c => (.literal c, rest)

/-- A set of characters or its complement. Without Unicode a complement is refused, because
it would match parts of characters. -/
def negateIf (flags : Flags) (negated : Bool) (s : CharSet) : Option CharSet :=
  if negated then if flags.unicode then some (CharSet.compl s) else none else some s

/-- The set, closed under case if case is ignored. -/
def foldIf (flags : Flags) (s : CharSet) : CharSet :=
  if flags.ignoreCase then CharSet.foldCase flags.unicode s else s

/-- Reads a property class after its letter. -/
def readProperty (flags : Flags) (negated : Bool) (cs : List Char) :
    Option (Atom × List Char) :=
  if !flags.unicode then none
  else match skip flags cs with
    | [] => none
    | '\x7b' :: rest => do
      let (name, rest) ← upToBrace rest
      let s ← CharSet.property? (dropBlanks flags name)
      (negateIf flags negated (foldIf flags s)).map fun s => (.set s, rest)
    | c :: rest =>
      if c = '\\' then none
      else do
        let s ← CharSet.named? (CharSet.plainName [c])
        (negateIf flags negated (foldIf flags s)).map fun s => (.set s, skip flags rest)

/-- The shorthand of a letter. -/
def shorthand? : Char → Option CharSet.Shorthand
  | 'd' | 'D' => some .digit
  | 's' | 'S' => some .space
  | 'w' | 'W' => some .word
  | _ => none

/-- Whether a character may be escaped to stand for itself: any of ASCII but letters, digits
and angle brackets. -/
def isEscapable (c : Char) : Bool :=
  c.toNat ≤ 0x7F && !c.isAlphanum && c != '<' && c != '>'

/-- The characters of words under the flags. -/
def wordSet (flags : Flags) : CharSet :=
  CharSet.Shorthand.word.set flags.unicode

/-- The boundary that a name in braces stands for. -/
def boundary? (isWord : CharSet) : String → Option Look
  | "start" => some (.wordStart isWord)
  | "end" => some (.wordEnd isWord)
  | "start-half" => some (.noWordBefore isWord)
  | "end-half" => some (.noWordAfter isWord)
  | _ => none

/-- Reads a word boundary after its letter. A name in braces makes it special; braces around
anything else are left for a repetition. -/
def readBoundary (flags : Flags) (cs : List Char) : Option (Atom × List Char) :=
  let plain := some (.condition (.wordBoundary (wordSet flags)), cs)
  let isNameChar c := c.isAlpha || c = '-'
  match cs with
  | '\x7b' :: rest =>
    match skip flags rest with
    | [] => none
    | c :: rest =>
      if !isNameChar c then plain
      else do
        let (name, rest) ← upToBrace (c :: rest)
        let look ← boundary? (wordSet flags) (String.ofList (dropBlanks flags name))
        some (.condition look, rest)
  | _ => plain

/-- Reads an escape after its backslash. -/
def readEscape (flags : Flags) : List Char → Option (Atom × List Char)
  | [] => none
  | c :: rest =>
    match shorthand? c with
    | some s => (negateIf flags c.isUpper (s.set flags.unicode)).map fun s => (.set s, rest)
    | none =>
      if isEscapable c then some (.literal c, rest)
      else match c with
        | 'x' => readCode flags 2 rest
        | 'u' => readCode flags 4 rest
        | 'U' => readCode flags 8 rest
        | 'p' => readProperty flags false rest
        | 'P' => readProperty flags true rest
        | 'a' => some (.literal '\x07', rest)
        | 'f' => some (.literal '\x0c', rest)
        | 't' => some (.literal '\t', rest)
        | 'n' => some (.literal '\n', rest)
        | 'r' => some (.literal '\r', rest)
        | 'v' => some (.literal '\x0b', rest)
        | 'A' => some (.condition .textStart, rest)
        | 'z' => some (.condition .textEnd, rest)
        | 'b' => readBoundary flags rest
        | 'B' => some (.condition (.noWordBoundary (wordSet flags)), rest)
        | '<' => some (.condition (.wordStart (wordSet flags)), rest)
        | '>' => some (.condition (.wordEnd (wordSet flags)), rest)
        | _ => none

/-! ## Classes in brackets -/

/-- How the parts of a class are combined. -/
inductive SetOperation where
  | intersection
  | difference
  | symmetricDifference
deriving DecidableEq, Repr

/-- The characters of a combination. -/
def SetOperation.apply (op : SetOperation) (a b : CharSet) : CharSet := fun c =>
  match op with
  | .intersection => a c && b c
  | .difference => a c && !b c
  | .symmetricDifference => a c != b c

/-- Reads one end of an interval, or a class on its own. -/
def readMember (flags : Flags) : List Char → Option (Atom × List Char)
  | [] => none
  | '\\' :: rest => readEscape flags rest
  | c :: rest => some (.literal c, rest)

/-- The set of a member of a class. Without Unicode a character must be ASCII. -/
def memberSet (flags : Flags) : Atom → Option CharSet
  | .literal c => if !flags.unicode && 0x7F < c.toNat then none else some fun d => d = c
  | .set s => some s
  | .condition _ => none

/-- Reads a member of a class or an interval between two of them. -/
def readInterval (flags : Flags) (cs : List Char) : Option (CharSet × List Char) := do
  let (first, rest) ← readMember flags cs
  let rest := skip flags rest
  let single := (memberSet flags first).map (·, rest)
  match rest with
  | [] => none
  | '-' :: after =>
    match skip flags after with
    | ']' :: _ | '-' :: _ => single
    | after =>
      let (last, rest) ← readMember flags after
      match first, last with
      | .literal low, .literal high =>
        if high < low || (!flags.unicode && 0x7F < high.toNat) then none
        else some (CharSet.interval low high, rest)
      | _, _ => none
  | _ => single

/-- Reads a class of ASCII such as `[:alpha:]` after its opening bracket, if it is one. -/
def readAsciiClass (flags : Flags) (cs : List Char) : Option (CharSet × List Char) :=
  let (negated, name) := match cs with
    | ':' :: '^' :: rest => (true, some rest)
    | ':' :: rest => (false, some rest)
    | _ => (false, none)
  name.bind fun cs =>
    match cs.dropWhile (· != ':') with
    | ':' :: ']' :: rest =>
      (CharSet.ascii? (String.ofList (cs.takeWhile (· != ':')))).map fun s =>
        let s := foldIf flags s
        (if negated then CharSet.compl s else s, rest)
    | _ => none

/-- Reads the start of a class after its opening bracket: whether it is negated, and the
hyphens, or else the closing bracket, that stand for themselves there. -/
def openClass (flags : Flags) (cs : List Char) : Bool × CharSet × List Char :=
  let (negated, cs) := match skip flags cs with
    | '^' :: rest => (true, skip flags rest)
    | cs => (false, cs)
  match cs with
  | ']' :: rest => (negated, fun c => c = ']', skip flags rest)
  | '-' :: _ => (negated, fun c => c = '-', hyphens cs)
  | cs => (negated, fun _ => false, cs)
where
  hyphens (cs : List Char) : List Char :=
    if flags.extended then (cs.dropWhile fun c => c = '-' || Unicode.isSpace c)
    else cs.dropWhile (· = '-')

/-- Combines what stands before an operation with what stands after it. -/
def combine (flags : Flags) (pending : Option (SetOperation × CharSet)) (s : CharSet) :
    CharSet :=
  match pending with
  | none => s
  | some (op, left) => op.apply (foldIf flags left) (foldIf flags s)

/-- The operation that starts a text, and what follows it. -/
def setOperation? : List Char → Option (SetOperation × List Char)
  | '&' :: '&' :: rest => some (.intersection, rest)
  | '-' :: '-' :: rest => some (.difference, rest)
  | '~' :: '~' :: rest => some (.symmetricDifference, rest)
  | _ => none

/-- Reads on inside a class up to and with its closing bracket. `pending` is what an operation
waits for, and `union` holds the members since then. Every step consumes a character, so that
the length of the text is enough fuel. -/
def readClass (flags : Flags) : Nat → Bool → Option (SetOperation × CharSet) → CharSet →
    List Char → Option (CharSet × List Char)
  | 0, _, _, _, _ => none
  | fuel + 1, negated, pending, union, cs =>
    let cs := skip flags cs
    match setOperation? cs with
    | some (op, rest) =>
      readClass flags fuel negated (some (op, combine flags pending union)) (fun _ => false) rest
    | none =>
      match cs with
      | [] => none
      | ']' :: rest =>
        (negateIf flags negated (foldIf flags (combine flags pending union))).map (·, rest)
      | '[' :: rest =>
        let inner := match readAsciiClass flags rest with
          | some result => some result
          | none =>
            let (innerNegated, start, rest) := openClass flags rest
            readClass flags fuel innerNegated none start rest
        inner.bind fun (s, rest) =>
          readClass flags fuel negated pending (fun c => union c || s c) rest
      | cs =>
        (readInterval flags cs).bind fun (s, rest) =>
          readClass flags fuel negated pending (fun c => union c || s c) rest

/-! ## Groups and repetitions -/

/-- The flag of a letter, switched on or off. The letter for laziness changes nothing here. -/
def setFlag (flags : Flags) (value : Bool) : Char → Option Flags
  | 'i' => some { flags with ignoreCase := value }
  | 'm' => some { flags with multiLine := value }
  | 's' => some { flags with dotAll := value }
  | 'R' => some { flags with returns := value }
  | 'u' => some { flags with unicode := value }
  | 'x' => some { flags with extended := value }
  | 'U' => some flags
  | _ => none

/-- Reads the letters of flags up to a colon or a closing parenthesis. No letter may come
twice, and a hyphen must be followed by a letter. -/
def readFlags (flags : Flags) (seen : List Char) : List Char → Option (Flags × List Char)
  | [] => none
  | c :: rest =>
    if c = ':' ∨ c = ')' then
      if seen.head? = some '-' then none else some (flags, c :: rest)
    else if c ∈ seen then none
    else if c = '-' then readFlags flags ('-' :: seen) rest
    else (setFlag flags (!('-' ∈ seen)) c).bind fun flags => readFlags flags (c :: seen) rest

/-- Whether a text may be the name of a group. -/
def isGroupName : List Char → Bool
  | [] => false
  | c :: rest =>
    let isLetter c := c = '_' || c.isAlpha || Unicode.Property.alphabetic.contains c
    let isNumber c := Unicode.GeneralCategory.digits.contains c ||
      Unicode.GeneralCategory.otherNumbers.any (·.contains c)
    isLetter c && rest.all fun c => isLetter c || isNumber c || c = '.' || c = '[' || c = ']'

/-- Reads a number within the braces of a repetition; blanks around it do not count. -/
def readCount (cs : List Char) : Option Nat × List Char :=
  let cs := Unicode.trimStart cs
  let digits := cs.takeWhile Char.isDigit
  let rest := Unicode.trimStart (cs.dropWhile Char.isDigit)
  let n := Nat.ofDigitChars 10 digits 0
  (if digits.isEmpty || 2 ^ (32 : Nat) ≤ n then none else some n, rest)

/-- Reads the bounds of a repetition after its opening brace. -/
def readBounds (flags : Flags) (cs : List Char) : Option (Nat × Option Nat × List Char) :=
  let (least, rest) := readCount (skip flags cs)
  least.bind fun least =>
    match rest with
    | '\x7d' :: rest => some (least, some least, rest)
    | ',' :: rest =>
      match skip flags rest with
      | '\x7d' :: rest => some (least, none, rest)
      | rest =>
        let (most, rest) := readCount rest
        most.bind fun most =>
          match rest with
          | '\x7d' :: rest => if most < least then none else some (least, some most, rest)
          | _ => none
    | _ => none

/-- What has been read of a group: the branches before the present one, and the parts of that,
both backwards. A part that only sets flags cannot be repeated. -/
structure Progress where
  flags : Flags
  names : List (List Char)
  branches : List Pattern
  parts : List (Option Pattern)

namespace Progress

/-- Adds a part. -/
def push (state : Progress) (p : Pattern) : Progress :=
  { state with parts := some p :: state.parts }

/-- Adds a character, a set of them, or a condition. -/
def pushAtom (state : Progress) : Atom → Progress
  | .literal c => state.push (.char (foldIf state.flags fun d => d = c))
  | .set s => state.push (.char s)
  | .condition l => state.push (.look l)

/-- Repeats the last part. -/
def repeatLast (state : Progress) (least : Nat) (most : Option Nat) : Option Progress :=
  match state.parts with
  | some p :: rest => some { state with parts := some (.times p least most) :: rest }
  | _ => none

/-- The present branch. -/
def branch (state : Progress) : Pattern :=
  state.parts.reverse.foldl (fun p part => match part with
    | some q => .seq p q
    | none => p) .empty

/-- Starts another branch. -/
def nextBranch (state : Progress) : Progress :=
  { state with branches := state.branch :: state.branches, parts := [] }

/-- All branches together. -/
def result (state : Progress) : Pattern :=
  state.branches.foldl (fun p branch => .either branch p) state.branch

end Progress

/-- The start of a line or of the text, as the flags say. -/
def startAnchor (flags : Flags) : Look :=
  if flags.multiLine then if flags.returns then .lineStartAfterReturn else .lineStart
  else .textStart

/-- The end of a line or of the text, as the flags say. -/
def endAnchor (flags : Flags) : Look :=
  if flags.multiLine then if flags.returns then .lineEndBeforeReturn else .lineEnd
  else .textEnd

/-- What a dot stands for; without Unicode it would match parts of characters. -/
def dot? (flags : Flags) : Option CharSet :=
  if !flags.unicode then none
  else if flags.dotAll then some fun _ => true
  else if flags.returns then some fun c => c != '\n' && c != '\r'
  else some (· != '\n')

/-- What follows the opening parenthesis of a group. -/
inductive GroupStart where
  /-- No group, but flags for what follows. -/
  | flags (flags : Flags)
  | group (flags : Flags) (name : Option (List Char))

/-- Reads the start of a group. -/
def readGroupStart (flags : Flags) (names : List (List Char)) (cs : List Char) :
    Option (GroupStart × List Char) :=
  match skip flags cs with
  | '?' :: rest =>
    let name? := match rest with
      | 'P' :: '<' :: rest => some rest
      | '<' :: rest => some rest
      | _ => none
    match name? with
    | some rest =>
      let name := rest.takeWhile (· != '>')
      match rest.dropWhile (· != '>') with
      | _ :: rest =>
        if isGroupName name && name ∉ names then some (.group flags (some name), rest) else none
      | [] => none
    | none =>
      match readFlags flags [] rest with
      | some (set, ':' :: after) => some (.group set none, after)
      | some (set, ')' :: after) => if rest.head? = some ')' then none else some (.flags set, after)
      | _ => none
  | rest => some (.group flags none, rest)

/-- Reads on inside a group, up to and with its closing parenthesis if it is `nested`, and to
the end of the text otherwise. Every step consumes a character, so that the length of the text
is enough fuel. -/
def readGroup : Nat → Bool → Progress → List Char → Option (Progress × List Char)
  | 0, _, _, _ => none
  | fuel + 1, nested, state, cs =>
    let lazily := fun (rest : List Char) => match rest with
      | '?' :: rest => rest
      | rest => rest
    match skip state.flags cs with
    | [] => if nested then none else some (state, [])
    | c :: rest =>
      match c with
      | ')' => if nested then some (state, rest) else none
      | '|' => readGroup fuel nested state.nextBranch rest
      | '(' =>
        (readGroupStart state.flags state.names rest).bind fun (start, rest) =>
          match start with
          | .flags flags =>
            readGroup fuel nested { state with flags, parts := none :: state.parts } rest
          | .group flags name =>
            let names := name.toList ++ state.names
            (readGroup fuel true ⟨flags, names, [], []⟩ rest).bind fun (inner, rest) =>
              readGroup fuel nested { state.push inner.result with names := inner.names } rest
      | '[' =>
        let (negated, start, rest) := openClass state.flags rest
        (readClass state.flags (rest.length + 1) negated none start rest).bind fun (s, rest) =>
          readGroup fuel nested (state.push (.char s)) rest
      | '?' => (state.repeatLast 0 (some 1)).bind fun state =>
        readGroup fuel nested state (lazily rest)
      | '*' => (state.repeatLast 0 none).bind fun state =>
        readGroup fuel nested state (lazily rest)
      | '+' => (state.repeatLast 1 none).bind fun state =>
        readGroup fuel nested state (lazily rest)
      | '\x7b' =>
        (readBounds state.flags rest).bind fun (least, most, rest) =>
          (state.repeatLast least most).bind fun state =>
            readGroup fuel nested state (lazily (skip state.flags rest))
      | '.' => (dot? state.flags).bind fun s => readGroup fuel nested (state.push (.char s)) rest
      | '^' => readGroup fuel nested (state.push (.look (startAnchor state.flags))) rest
      | '$' => readGroup fuel nested (state.push (.look (endAnchor state.flags))) rest
      | '\\' => (readEscape state.flags rest).bind fun (atom, rest) =>
        readGroup fuel nested (state.pushAtom atom) rest
      | c => readGroup fuel nested (state.pushAtom (.literal c)) rest

/-- How many characters a pattern may have when its repetitions are written out. -/
def maxSize : Nat := 327680

/-- Reads a pattern; `none` if the text is not one. -/
def ofChars? (cs : List Char) : Option Pattern :=
  (readGroup (cs.length + 1) false ⟨{}, [], [], []⟩ cs).bind fun (state, _) =>
    if state.result.size ≤ maxSize then some state.result else none

/-- Whether the pattern that a text spells occurs in another; `none` if it spells none. -/
def occurs? (source text : List Char) : Option Bool :=
  (ofChars? source).map fun p => p.occursIn text

end PathQuery.Pattern
