import PathQuery.Operator

/-!
# Settings

What a caller may choose when compiling and evaluating a query.
-/

namespace PathQuery

/-- Settings of the query language. -/
structure Settings where
  /-- Allow white space between the parts of a bracket segment. -/
  lenient : Bool := false
  /-- Let objects be indexed and sliced, in key order. -/
  indexObjects : Bool := false
  /-- The order in which expressions are searched for operators and selectors. -/
  priorities : List Priority := Priority.default
  /-- How deep a foreign structure may nest. -/
  maxDepth : Nat := 512

/-- The settings that hold when nothing is chosen. -/
def Settings.standard : Settings := {}

instance : Inhabited Settings := ⟨.standard⟩

end PathQuery
