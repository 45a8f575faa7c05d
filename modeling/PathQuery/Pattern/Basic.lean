/-!
# Patterns

A pattern says which stretches of a text it matches. It is searched for by keeping a mark on
every gap between two characters that a match can have reached; one part of the pattern after
the other moves the marks on. Since only the existence of a match is asked for, the order in
which alternatives are tried does not matter.
-/

namespace PathQuery

/-- A set of characters. -/
abbrev CharSet := Char → Bool

/-- A condition on a gap in the text. `isWord` tells which characters make up words. -/
inductive Look where
  | textStart
  | textEnd
  | lineStart
  | lineEnd
  /-- Like `lineStart`, where a carriage return alone or before a line feed ends a line too. -/
  | lineStartAfterReturn
  /-- Like `lineEnd`, where a carriage return alone or before a line feed ends a line too. -/
  | lineEndBeforeReturn
  | wordBoundary (isWord : CharSet)
  | noWordBoundary (isWord : CharSet)
  | wordStart (isWord : CharSet)
  | wordEnd (isWord : CharSet)
  | noWordBefore (isWord : CharSet)
  | noWordAfter (isWord : CharSet)

/-- A pattern. -/
inductive Pattern where
  /-- The empty stretch. -/
  | empty
  /-- One character. -/
  | char (set : CharSet)
  /-- An empty stretch in a gap with a condition. -/
  | look (condition : Look)
  | seq (first second : Pattern)
  | either (left right : Pattern)
  /-- At least `least` and at most `most` repetitions; without `most` there is no limit. -/
  | times (body : Pattern) (least : Nat) (most : Option Nat)

/-- Whether a condition holds between two characters; at either end of the text there is
none. -/
def Look.holds (previous next : Option Char) : Look → Bool
  | .textStart => previous.isNone
  | .textEnd => next.isNone
  | .lineStart => previous.isNone || previous == some '\n'
  | .lineEnd => next.isNone || next == some '\n'
  | .lineStartAfterReturn =>
    previous.isNone || previous == some '\n' || (previous == some '\r' && next != some '\n')
  | .lineEndBeforeReturn =>
    next.isNone || next == some '\r' || (next == some '\n' && previous != some '\r')
  | .wordBoundary isWord => previous.any isWord != next.any isWord
  | .noWordBoundary isWord => previous.any isWord == next.any isWord
  | .wordStart isWord => !previous.any isWord && next.any isWord
  | .wordEnd isWord => previous.any isWord && !next.any isWord
  | .noWordBefore isWord => !previous.any isWord
  | .noWordAfter isWord => !next.any isWord

namespace Pattern

/-- A flag for every gap of a text, from the one before its first character to the one after
its last. -/
abbrev Marks := List Bool

/-- The gaps of a text, each with the characters next to it. -/
def gaps (text : List Char) : List (Option Char × Option Char) :=
  (none :: text.map some).zip (text.map some ++ [none])

/-- The marks that are in either of two lists. -/
def both (a b : Marks) : Marks :=
  List.zipWith (· || ·) a b

/-- Moves every mark over the next character, if that is in the set. -/
def advance (set : CharSet) (text : List Char) (marks : Marks) : Marks :=
  false :: List.zipWith (fun marked c => marked && set c) marks text

/-- Keeps the marks on gaps where a condition holds. -/
def keep (condition : Look) (text : List Char) (marks : Marks) : Marks :=
  List.zipWith (fun marked gap => marked && condition.holds gap.1 gap.2) marks (gaps text)

/-- Applies a step a number of times, stopping when nothing changes any more. -/
def iterate (step : Marks → Marks) : Nat → Marks → Marks
  | 0, marks => marks
  | count + 1, marks =>
    let next := step marks
    if next = marks then marks else iterate step count next

/-- The gaps that at most `count` steps lead to. -/
def reach (step : Marks → Marks) (count : Nat) (marks : Marks) : Marks :=
  iterate (fun marks => both marks (step marks)) count marks

/-- Moves every mark over all the stretches that a pattern matches there. Without a limit on
repetitions, as many as there are gaps reach all that can be reached. -/
def run (text : List Char) : Pattern → Marks → Marks
  | .empty, marks => marks
  | .char set, marks => advance set text marks
  | .look condition, marks => keep condition text marks
  | .seq first second, marks => run text second (run text first marks)
  | .either left right, marks => both (run text left marks) (run text right marks)
  | .times body least most, marks =>
    let start := iterate (run text body) least marks
    match most with
    | some most => reach (run text body) (most - least) start
    | none => reach (run text body) (text.length + 1) start

/-- Whether a pattern matches some stretch of a text. -/
def occursIn (p : Pattern) (text : List Char) : Bool :=
  (p.run text (List.replicate (text.length + 1) true)).any id

/-- How many characters a pattern has when its repetitions are written out. -/
def size : Pattern → Nat
  | .empty => 0
  | .char _ => 1
  | .look _ => 1
  | .seq first second => first.size + second.size
  | .either left right => left.size + right.size + 1
  | .times body least most => body.size * max 1 (most.getD least)

end Pattern

end PathQuery
