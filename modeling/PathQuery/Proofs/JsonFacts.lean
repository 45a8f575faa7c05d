import PathQuery.Proofs.DocumentOrder
import PathQuery.Proofs.DocumentPrefix
import PathQuery.Proofs.DocumentText

/-!
# What is taken of JSON

How a document is read and written matters to the results only as far as `Documented` says: which
values have a number and come back from it, what the first character of a document tells, that nothing
may follow a document, that members come in key order, and that a written document closes what it opens.
Which float stands for which digits is left open, and so are the texts that are refused.
-/

namespace PathQuery

open Text

/-- A package that makes numbers and tells what they are, reads JSON texts, and writes documents in the
compact form. -/
structure JsonPackage where
  ofInt64 : Int64 → Json
  ofFloat? : Float → Option Json
  asInt64? : Json → Option Int64
  asFloat? : Json → Option Float
  read : List Char → Option Json
  write : Json → List Char

/-- The documented facts about a package of JSON that results use. -/
structure JsonPackage.Documented (P : JsonPackage) : Prop where
  asInt64?_ofInt64 (n : Int64) : P.asInt64? (P.ofInt64 n) = some n
  /-- The number of a float is no integer, even if it is whole. -/
  asInt64?_of_ofFloat? {x : Float} {j : Json} : P.ofFloat? x = some j → P.asInt64? j = none
  asFloat?_of_ofFloat? {x : Float} {j : Json} : P.ofFloat? x = some j → P.asFloat? j = some x
  isSome_ofFloat? (x : Float) : (P.ofFloat? x).isSome = x.isFinite
  /-- A document that starts with a bracket is an array. -/
  array_of_read {cs : List Char} {j : Json} :
    P.read ('[' :: cs) = some j → ∃ items, j = .array items
  /-- A document that starts with a brace is an object. -/
  object_of_read {cs : List Char} {j : Json} :
    P.read ('\x7b' :: cs) = some j → ∃ members, j = .object members
  /-- Nothing but blanks may stand behind an array or an object. -/
  skipBlanks_eq_nil {cs : List Char} (more : List Char) {j j' : Json} :
    Json.StartsContainer cs → P.read cs = some j → P.read (cs ++ more) = some j' →
      Json.skipBlanks more = []
  /-- Members are kept in key order. -/
  ordered_of_read {cs : List Char} {j : Json} : P.read cs = some j → j.Ordered
  /-- A written document closes the brackets, the parentheses and the quotes that it opens. -/
  balanced_write (j : Json) : Balanced (P.write j)
  /-- An array stands in brackets that belong together. -/
  write_array (items : List Json) :
    ∃ inner, P.write (.array items) = '[' :: (inner ++ [']']) ∧ Balanced inner
  /-- An object stands in braces that belong together. -/
  write_object (members : List (String × Json)) :
    ∃ inner, P.write (.object members) = '\x7b' :: (inner ++ ['\x7d']) ∧ Balanced inner

namespace Json

/-- The package that the functions of this library make up. -/
def package : JsonPackage where
  ofInt64 := ofInt64
  ofFloat? := ofFloat?
  asInt64? := asInt64?
  asFloat? := asFloat?
  read := ofChars?
  write := text

theorem exists_array_of_ofChars? {cs : List Char} {j : Json} (h : ofChars? ('[' :: cs) = some j) :
    ∃ items, j = .array items := by
  obtain ⟨rest, hread⟩ := exists_readValue_of_ofChars? h
  have hblanks : skipBlanks ('[' :: cs) = '[' :: cs := rfl
  rw [readValue.eq_def, maxNesting] at hread
  simp only [hblanks] at hread
  split at hread
  · cases hread
    exact ⟨[], rfl⟩
  · obtain ⟨⟨items, rest'⟩, -, he⟩ := Option.map_eq_some_iff.1 hread
    cases he
    exact ⟨items, rfl⟩

theorem exists_object_of_ofChars? {cs : List Char} {j : Json}
    (h : ofChars? ('\x7b' :: cs) = some j) : ∃ members, j = .object members := by
  obtain ⟨rest, hread⟩ := exists_readValue_of_ofChars? h
  have hblanks : skipBlanks ('\x7b' :: cs) = '\x7b' :: cs := rfl
  rw [readValue.eq_def, maxNesting] at hread
  simp only [hblanks] at hread
  split at hread
  · cases hread
    exact ⟨[], rfl⟩
  · obtain ⟨⟨members, rest'⟩, -, he⟩ := Option.map_eq_some_iff.1 hread
    cases he
    exact ⟨Fields.ofList members, rfl⟩

theorem ofFloat?_eq_some {x : Float} {j : Json} (h : ofFloat? x = some j) : j = .float x := by
  obtain ⟨-, hj⟩ := Option.ite_none_right_eq_some.1 h
  exact (Option.some.inj hj).symm

/-- This library reads and writes documents as the results ask. -/
theorem documented : package.Documented where
  asInt64?_ofInt64 := Number.ofInt?_toInt
  asInt64?_of_ofFloat? h := ofFloat?_eq_some h ▸ rfl
  asFloat?_of_ofFloat? h := ofFloat?_eq_some h ▸ rfl
  isSome_ofFloat? x := by
    show (ofFloat? x).isSome = x.isFinite
    unfold ofFloat?
    cases x.isFinite <;> rfl
  array_of_read := exists_array_of_ofChars?
  object_of_read := exists_object_of_ofChars?
  skipBlanks_eq_nil := skipBlanks_eq_nil_of_ofChars?
  ordered_of_read := ordered_of_ofChars?
  balanced_write := balanced_text
  write_array items := ⟨itemsText items, rfl, balanced_itemsText items⟩
  write_object members := ⟨membersText members, rfl, balanced_membersText members⟩

/-- Every finite float has a number. -/
theorem exists_ofFloat? {x : Float} (h : x.isFinite = true) : ∃ j, ofFloat? x = some j :=
  Option.isSome_iff_exists.1 ((documented.isSome_ofFloat? x).trans h)

theorem ofFloat?_eq_none {x : Float} (h : ¬x.isFinite = true) : ofFloat? x = none := by
  have hsome : (ofFloat? x).isSome = x.isFinite := documented.isSome_ofFloat? x
  rw [← hsome] at h
  exact Option.not_isSome_iff_eq_none.1 h

end Json

/-! ## Values -/

namespace Value

/-- Whether a value is an array or an object. -/
def isContainer : Value → Bool
  | .array _ | .object _ => true
  | _ => false

theorem ofJson_ofInt64 (n : Int64) : ofJson (.ofInt64 n) = .integer n := by
  have hnumber : (Json.ofInt64 n).asInt64? = some n := Json.documented.asInt64?_ofInt64 n
  show ofNumber (.ofInt64 n) = .integer n
  rw [ofNumber, hnumber]

theorem ofJson_of_ofFloat? {x : Float} {j : Json} (h : Json.ofFloat? x = some j) :
    ofJson j = .float x := by
  have hinteger : j.asInt64? = none := Json.documented.asInt64?_of_ofFloat? h
  have hfloat : j.asFloat? = some x := Json.documented.asFloat?_of_ofFloat? h
  have hnumber : ofJson j = ofNumber j := by
    rw [Json.ofFloat?_eq_some h]
    rfl
  rw [hnumber, ofNumber, hinteger, hfloat]
  rfl

/-- A value is read from a text if the package reads a document from it. -/
theorem exists_read_of_ofText? {cs : List Char} {v : Value} (h : ofText? (String.ofList cs) = some v) :
    ∃ j, Json.package.read cs = some j ∧ ofJson j = v := by
  rw [ofText?, Json.ofString?, String.toList_ofList] at h
  exact Option.map_eq_some_iff.1 h

/-- A value that is read from a text is in key order. -/
theorem ordered_of_ofText? {cs : List Char} {v : Value} (h : ofText? (String.ofList cs) = some v) :
    v.Ordered := by
  obtain ⟨j, hread, rfl⟩ := exists_read_of_ofText? h
  exact (Json.documented.ordered_of_read hread).ofJson

theorem isContainer_of_ofText? {c : Char} {rest : List Char} {v : Value}
    (hc : c = '[' ∨ c = '\x7b') (h : ofText? (String.ofList (c :: rest)) = some v) :
    v.isContainer = true := by
  obtain ⟨j, hread, rfl⟩ := exists_read_of_ofText? h
  rcases hc with rfl | rfl
  · obtain ⟨items, rfl⟩ := Json.documented.array_of_read hread
    rfl
  · obtain ⟨members, rfl⟩ := Json.documented.object_of_read hread
    rfl

/-- A container is written between a bracket or a brace and the one that closes it. -/
theorem exists_text_of_isContainer {v : Value} (h : v.isContainer = true) :
    ∃ o inner c, v.text = o :: (inner ++ [c]) ∧ (o = '[' ∧ c = ']' ∨ o = '\x7b' ∧ c = '\x7d') ∧
      Balanced inner := by
  cases v with
  | array items =>
    obtain ⟨inner, htext, hinner⟩ := Json.documented.write_array (toItems items)
    exact ⟨'[', inner, ']', htext, .inl ⟨rfl, rfl⟩, hinner⟩
  | object fields =>
    obtain ⟨inner, htext, hinner⟩ := Json.documented.write_object (toMembers fields)
    exact ⟨'\x7b', inner, '\x7d', htext, .inr ⟨rfl, rfl⟩, hinner⟩
  | _ => cases h

end Value

end PathQuery
