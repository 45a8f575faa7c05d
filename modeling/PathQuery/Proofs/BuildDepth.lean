import Mathlib.Data.Set.Finite.List
import PathQuery.Proofs.Blank
import PathQuery.Proofs.Recursion

/-!
# How deep building nests

Building an expression cuts selectors into words and words into arguments, and builds these again, and
it tries split after split until one works out. Whatever is built on the way is a proper part of the
trimmed text it stands in, so that no list of priorities leads it back to where it was. `buildWithin`
builds without a look at the texts and only counts how deep it is: one level for the text itself and as
many as it has characters are enough.
-/

namespace PathQuery.Expr

open Text Unicode

variable {settings : Settings} {cs : List Char}

/-- A text for which building a text enters the builder, and how many are being built around it then. -/
inductive Enters (settings : Settings) (cs : List Char) : Nat → List Char → Prop
  | start : Enters settings cs 0 cs
  | ask {depth : Nat} {whole part : List Char} : Enters settings cs depth whole →
      Asks settings whole part → Enters settings cs (depth + 1) part

theorem Asks.length_trim_lt {part : List Char} (h : Asks settings cs part) :
    (trim part).length < (trim cs).length :=
  Nat.lt_of_le_of_lt (length_trim_le part) h.isPart.length_lt

/-- Asking for texts comes to an end. -/
theorem wellFounded_asks (settings : Settings) :
    WellFounded fun part whole => Asks settings whole part := by
  have hlength : WellFounded fun part whole : List Char => (trim part).length < (trim whole).length :=
    InvImage.wf (fun cs => (trim cs).length) Nat.lt_wfRel.wf
  exact Subrelation.wf (fun h => h.length_trim_lt) hlength

/-- A step asks for finitely many texts. -/
theorem finite_asks (settings : Settings) (cs : List Char) :
    {part | Asks settings cs part}.Finite := by
  refine (List.finite_toSet (trim cs).sublists).subset ?_
  intro part h
  exact List.mem_sublists.2 h.isPart.piece.sublist

/-- What is entered has lost a character at least for each text around it. -/
theorem Enters.isPart {depth : Nat} {part : List Char} (h : Enters settings cs (depth + 1) part) :
    IsPart part (trim cs) ∧ part.length + depth < (trim cs).length := by
  induction depth generalizing part with
  | zero =>
    cases h with
    | ask hstart hasks =>
      cases hstart
      exact ⟨hasks.isPart, hasks.isPart.length_lt⟩
  | succ depth ih =>
    cases h with
    | @ask _ whole _ henters hasks =>
      obtain ⟨hwhole, hlength⟩ := ih henters
      have hpart : IsPart part whole := hasks.isPart.trans_piece (infix_trim whole)
      have hlt := hpart.length_lt
      exact ⟨hpart.trans hwhole, by omega⟩

/-- The builder that goes so many levels deep. What is done with texts that stand deeper is left
open. -/
def buildWithin (settings : Settings) (beyond : ExprBuilder) : Nat → ExprBuilder
  | 0 => beyond
  | levels + 1 => step settings (buildWithin settings beyond levels)

theorem buildWithin_eq_build (beyond : ExprBuilder) {levels : Nat}
    (h : (trim cs).length < levels) : buildWithin settings beyond levels cs = build settings cs := by
  induction levels generalizing cs with
  | zero => exact absurd h (Nat.not_lt_zero _)
  | succ levels ih =>
    rw [buildWithin, build_eq]
    refine step_congr fun part hpart => ih ?_
    exact Nat.lt_of_lt_of_le hpart.length_trim_lt (Nat.le_of_lt_succ h)

/-- Every text for which a step asks the builder is a proper part of the trimmed text, and the step
depends on the builder through these texts only, of which there are finitely many. Under any settings
building therefore ends, and is a step over itself. A text that is entered has lost a character at least
for each text around it, so that a builder that goes one level deeper than the trimmed text has
characters gives the same, whatever it does with what stands deeper. -/
theorem build_eq_buildWithin (settings : Settings) (cs : List Char) :
    ((∀ part, Asks settings cs part → IsPart part (trim cs)) ∧
      {part | Asks settings cs part}.Finite ∧
      ∀ f g : ExprBuilder, (∀ part, Asks settings cs part → f part = g part) →
        step settings f cs = step settings g cs) ∧
    (WellFounded (fun part whole => Asks settings whole part) ∧
      build settings cs = step settings (build settings) cs) ∧
    (∀ depth part, Enters settings cs (depth + 1) part →
      IsPart part (trim cs) ∧ part.length + depth < (trim cs).length) ∧
    ∀ (beyond : ExprBuilder) (levels : Nat), (trim cs).length < levels →
      buildWithin settings beyond levels cs = build settings cs := by
  refine ⟨⟨?_, finite_asks settings cs, ?_⟩, ⟨wellFounded_asks settings, build_eq settings cs⟩, ?_, ?_⟩
  · intro part hpart
    exact hpart.isPart
  · intro f g h
    exact step_congr h
  · intro depth part hpart
    exact hpart.isPart
  · intro beyond levels hlevels
    exact buildWithin_eq_build beyond hlevels

/-- A number in a script of a selector that is the right side of a sum in parentheses. -/
theorem build_eq_buildWithin_of_script :
    Enters .standard "(1 + @[(2)])".toList 3 "2".toList ∧
    IsPart "2".toList "(1 + @[(2)])".toList ∧ "2".length + 2 < "(1 + @[(2)])".length ∧
    buildWithin .standard (fun _ => .error .emptyQuery) 13 "(1 + @[(2)])".toList =
      build .standard "(1 + @[(2)])".toList := by
  have hsum : Asks .standard "(1 + @[(2)])".toList "1 + @[(2)]".toList :=
    .inner (by with_unfolding_all rfl)
  have hright : Asks .standard "1 + @[(2)]".toList " @[(2)]".toList := by
    have hsplit : (.operator .add, "1 ".toList, " @[(2)]".toList) ∈
        Split.candidates Settings.standard.priorities (trim "1 + @[(2)]".toList) := by decide
    exact .right (by with_unfolding_all rfl) hsplit (by decide)
  have hscript : Asks .standard " @[(2)]".toList "2".toList := by
    have hsplit : (.selector .current, [], "[(2)]".toList) ∈
        Split.candidates Settings.standard.priorities (trim " @[(2)]".toList) := by decide
    have hcut : Words.ofSelector (trim " @[(2)]".toList) = .ok ⟨["@", "[(2)]"], ""⟩ := by
      with_unfolding_all rfl
    have hargument : Segment.HasArgument false "[(2)]".toList "2".toList := by
      refine ⟨"(2)".toList, [some (.expression "2".toList)], [], rfl, ?_, ?_, List.mem_cons_self⟩
      · intro clause h
        cases h
      · with_unfolding_all rfl
    exact .argument (by with_unfolding_all rfl) hsplit rfl hcut
      (List.mem_cons_of_mem _ List.mem_cons_self) hargument
  have henters : Enters .standard "(1 + @[(2)])".toList 3 "2".toList :=
    .ask (.ask (.ask .start hsum) hright) hscript
  obtain ⟨-, -, hpart, hlevels⟩ := build_eq_buildWithin .standard "(1 + @[(2)])".toList
  have htrim : trim "(1 + @[(2)])".toList = "(1 + @[(2)])".toList := rfl
  rw [htrim] at hpart hlevels
  exact ⟨henters, (hpart 2 _ henters).1, (hpart 2 _ henters).2, hlevels _ 13 (by decide)⟩

end PathQuery.Expr
