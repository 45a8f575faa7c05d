import PathQuery.Proofs.OperatorChain
import PathQuery.Proofs.PatternFilter

/-!
# Patterns joined by a conjunction

A pattern may hold every operator, and every quote and bracket. The search for operators enters a
pattern at the slash behind `=~` and leaves it at the first slash that is not escaped, so that in a
chain of matches only the `&&` between them are found, each of them where the chain was joined.
-/

namespace PathQuery

open Text Unicode Split

/-- A field and the pattern that it is matched with. Every slash of the pattern is escaped. -/
structure PatternTest where
  key : String
  pattern : String
  hidden : Hidden '/' pattern.toList

namespace PatternTest

/-- The text of a test, with the key in quotes. -/
def text (t : PatternTest) : String :=
  "@[" ++ quoted t.key ++ "] =~ /" ++ t.pattern ++ "/"

/-- The selector of the field of a test. -/
def field (t : PatternTest) : Expr :=
  .selector .current [.current, .key t.key]

/-- The expression that a test stands for. -/
def expr (t : PatternTest) : Expr :=
  .binary .matchPattern t.field (.literal (.string ("/" ++ t.pattern ++ "/")))

/-- Tests with ` && ` between them. -/
def joined (tests : List PatternTest) : String :=
  " && ".intercalate (tests.map text)

/-- The conjunction of tests, nested to the right. -/
def conjunction (first : PatternTest) : List PatternTest → Expr
  | [] => first.expr
  | next :: rest => .binary .and first.expr (conjunction next rest)

variable (first next : PatternTest) (rest : List PatternTest)

/-! ## The text of tests -/

theorem toList_text : first.text.toList = first.field.text ++
    ' ' :: (Operator.matchPattern.symbol ++ ' ' :: slashed first.pattern.toList) := by
  have hfield : first.field.text = ['@'] ++ (bracketed (quote first.key.toList) ++ []) := rfl
  rw [hfield]
  simp [text, quoted, bracketed, slashed, Operator.symbol]

theorem toList_joined_cons : (joined (first :: next :: rest)).toList = first.text.toList ++
    ' ' :: (Operator.and.symbol ++ ' ' :: (joined (next :: rest)).toList) := by
  rw [joined, List.map_cons, List.map_cons, String.intercalate_cons_cons, ← List.map_cons]
  simp [joined, Operator.symbol]

theorem hasEnds_field : HasEnds first.field.text :=
  (Expr.passes_wellFormed_field first.key).hasEnds

theorem hasEnds_text : HasEnds first.text.toList := by
  have hpattern : HasEnds (slashed first.pattern.toList) := .group rfl rfl
  rw [toList_text]
  exact first.hasEnds_field.join hpattern [' ', '=', '~', ' ']

theorem hasEnds_joined : HasEnds (joined (first :: rest)).toList := by
  induction rest generalizing first with
  | nil => exact first.hasEnds_text
  | cons next rest ih =>
    rw [toList_joined_cons]
    exact first.hasEnds_text.join (ih next) [' ', '&', '&', ' ']

/-! ## Where operators are found -/

theorem silent_field (q : Operator) : Silent (.operator q) first.field.text :=
  silent_operandText (Expr.passes_wellFormed_field first.key) q

/-- A test hides whatever its pattern is made of. -/
theorem silent_text {q : Operator} (hq : q ≠ .matchPattern) :
    Silent (.operator q) first.text.toList := by
  rw [toList_text]
  exact (first.silent_field q).match_pattern first.hasEnds_field hq first.hidden

/-- In joined tests only matches and conjunctions are found. -/
theorem silent_joined {q : Operator} (hmatch : q ≠ .matchPattern) (hand : q ≠ .and) :
    Silent (.operator q) (joined (first :: rest)).toList := by
  induction rest generalizing first with
  | nil => exact first.silent_text hmatch
  | cons next rest ih =>
    rw [toList_joined_cons]
    exact (first.silent_text hmatch).operation first.hasEnds_text hand (ih next)

/-! ## Building the conjunction -/

variable {settings : Settings} (hsettings : settings.priorities = Priority.default)

include hsettings

theorem build_single : Expr.build settings first.text.toList = .ok (some first.expr) := by
  have hfield : Expr.build settings first.field.text = .ok (some first.field) :=
    Expr.build_field first.key hsettings
  have hhead : first.field.text.head? ≠ some '(' :=
    Expr.head?_text_ne (Expr.passes_wellFormed_field first.key) rfl
  have hpattern : String.ofList (slashed first.pattern.toList) = "/" ++ first.pattern ++ "/" := by
    apply String.toList_injective
    simp [slashed]
  rw [toList_text, Expr.build_match hsettings first.hasEnds_field first.silent_field hhead hfield
    first.hidden, hpattern]
  rfl

end PatternTest

/-- A conjunction is split at its first `&&`, if nothing that comes before that in the search order
is found in it. -/
theorem Split.exists_candidates_and {left right : List Char} (hends : HasEnds left)
    (hsilent : ∀ q ∈ [Operator.or, .and], Silent (.operator q) left)
    (hright : Silent (.operator .or) right) :
    ∃ later, candidates Priority.default (left ++ ' ' :: (Operator.and.symbol ++ ' ' :: right)) =
      (.operator .and, left ++ [' '], ' ' :: right) :: later := by
  -- `||` is looked for before `&&`; it stands on neither side, so the first candidate is an `&&`.
  have hdefault : Priority.default =
      .operator .or :: .operator .and :: Priority.default.drop 2 := rfl
  have hor : Silent (.operator .or) (left ++ ' ' :: (Operator.and.symbol ++ ' ' :: right)) :=
    (hsilent .or (by decide)).operation hends (by decide) hright
  have hand := sides_operation hends (hsilent .and (by decide)) .and [] right
  rw [if_pos rfl] at hand
  rw [candidates, hdefault, List.flatMap_cons, List.flatMap_cons, hor.sides_eq_nil, hand]
  exact ⟨_, rfl⟩

theorem Expr.build_and {settings : Settings} (hsettings : settings.priorities = Priority.default)
    {left right : List Char} {l r : Expr} (hleft : HasEnds left) (hright : HasEnds right)
    (hhead : left.head? ≠ some '(') (hsilent : ∀ q ∈ [Operator.or, .and], Silent (.operator q) left)
    (hor : Silent (.operator .or) right) (hl : build settings left = .ok (some l))
    (hr : build settings right = .ok (some r)) :
    build settings (left ++ ' ' :: (Operator.and.symbol ++ ' ' :: right)) =
      .ok (some (.binary .and l r)) := by
  obtain ⟨later, hcandidates⟩ := exists_candidates_and hleft hsilent hor
  have hbuildLeft : build settings (left ++ [' ']) = .ok (some l) := by
    rw [build_eq_of_trim_eq (trim_append_right rfl), hl]
  have hbuildRight : build settings (' ' :: right) = .ok (some r) := by
    rw [build_eq_of_trim_eq trim_cons_space, hr]
  have hsplit := @ofSplit_eq_binary settings.lenient (build settings) .and
    (left ++ ' ' :: (Operator.and.symbol ++ ' ' :: right)) (left ++ [' ']) (' ' :: right) l r
    (by decide) (by decide) (hleft.isBlank_append _) hright.isBlank_eq hbuildLeft hbuildRight
  rw [build_operation_eq_ofParts hleft hright hhead, ofParts, hsettings, hcandidates,
    firstResult_cons_of_some hsplit]
  rfl

namespace PatternTest

variable (first : PatternTest) (rest : List PatternTest)

theorem head?_text_ne : first.text.toList.head? ≠ some '(' := by
  rw [toList_text]
  exact fun h => absurd (Option.some.inj h) (by decide)

theorem build_joined {settings : Settings} (hsettings : settings.priorities = Priority.default) :
    Expr.build settings (joined (first :: rest)).toList =
      .ok (some (first.conjunction rest)) := by
  induction rest generalizing first with
  | nil => exact first.build_single hsettings
  | cons next rest ih =>
    have hsilent : ∀ q ∈ [Operator.or, .and], Silent (.operator q) first.text.toList := by
      intro q hq
      refine first.silent_text ?_
      rintro rfl
      exact absurd hq (by decide)
    rw [toList_joined_cons]
    exact Expr.build_and hsettings first.hasEnds_text (next.hasEnds_joined rest) first.head?_text_ne
      hsilent (next.silent_joined rest (by decide) (by decide)) (first.build_single hsettings) (ih next)

/-- Whatever their patterns are made of, tests that are joined by ` && ` are built as a conjunction
of matches that is nested to the right, and every pattern comes out of the text as it is. -/
theorem ofText_joined :
    Expr.ofText .standard (joined (first :: rest)) = .ok (some (first.conjunction rest)) :=
  first.build_joined rest rfl

/-- Operators, quotes, brackets and an escaped slash in the patterns, and a quote in a key. -/
theorem ofText_joined_of_operators :
    let first : PatternTest := ⟨"it's", "a && b' =~ (", .of_all rfl⟩
    let second : PatternTest := ⟨"k", "\\/ || [", .escape '/' (.of_all rfl)⟩
    joined [first, second] = "@['it\\'s'] =~ /a && b' =~ (/ && @['k'] =~ /\\/ || [/" ∧
      Expr.ofText .standard (joined [first, second]) =
        .ok (some (.binary .and first.expr second.expr)) := by
  intro first second
  exact ⟨by decide, ofText_joined first [second]⟩

end PatternTest

end PathQuery
