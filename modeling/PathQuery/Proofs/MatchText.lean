import PathQuery.Proofs.RoundTrip

/-!
# The canonical text of a match

What stands on the right of a match is read as a constant at once. There parentheses are not
understood, but the canonical text puts a number with a minus sign into them, as it does behind any
other operator. Such a match is built from a text, and its canonical text cannot be built again.
-/

namespace PathQuery.Expr

open Outcome

variable {settings : Settings} {left right : Expr}

/-- A match is legible just when its left side is and no number with a minus sign is on its right. -/
theorem passes_legible_match_iff (h : (binary .matchPattern left right).Passes wellFormed) :
    (binary .matchPattern left right).Passes legible ↔
      right.isGrouped = false ∧ left.Passes legible := by
  obtain ⟨value, rfl⟩ : ∃ value, right = .literal value := h.expr.2 rfl
  constructor
  · intro hlegible
    cases hlegible with
    | binary hgrouped hleft _ => exact ⟨hgrouped rfl, hleft⟩
  · rintro ⟨hgrouped, hleft⟩
    exact .binary (fun _ => hgrouped) hleft (.literal trivial)

/-- With a number with a minus sign on the right, the text fails at the parentheses around it. -/
theorem build_text_match_of_grouped (hsettings : settings.priorities = Priority.default)
    (h : (binary .matchPattern left right).Passes wellFormed) (hgrouped : right.isGrouped = true)
    (hlegible : left.Passes legible) (hfaithful : left.Passes faithful) :
    build settings (binary .matchPattern left right).text =
      .error (.badExpression (String.ofList right.operandText) .unrecognised) := by
  obtain ⟨value, rfl⟩ : ∃ value, right = .literal value := h.expr.2 rfl
  cases h with
  | binary hop hleft hright =>
    have hbuildLeft := (build_text_iff hsettings hleft hlegible).2 hfaithful
    have hsplit := @ofSplit_binary settings .matchPattern left (.literal value) (by decide) hleft hright
      (binary .matchPattern left (.literal value)).text
    rw [hbuildLeft, ofRight_grouped hright hgrouped] at hsplit
    rw [build_text_eq_ofParts (.binary hop hleft hright), ofParts,
      candidates_binary hsettings hleft hright, firstResult, hsplit]
    rfl

/-- The canonical text of a match that was built from a text gives the match back exactly when no
number with a minus sign is on its right, its left side is legible, and all constants in it come
back from their texts. Otherwise it does not even give an equal match, unless only the constants are
at fault, and with such a number on the right of a left side that comes back it fails. -/
theorem ofText_render_match {text : String}
    (h : ofText .standard text = .ok (some (.binary .matchPattern left right))) :
    let expr := binary .matchPattern left right
    (ofText .standard expr.render = .ok (some expr) ↔
        right.isGrouped = false ∧ left.Passes legible ∧ expr.Passes faithful) ∧
      (¬(right.isGrouped = false ∧ left.Passes legible) →
        ∀ again, ofText .standard expr.render = .ok (some again) → again.beq expr = false) ∧
      (right.isGrouped = true → left.Passes legible → left.Passes faithful →
        ofText .standard expr.render =
          .error (.badExpression (String.ofList right.operandText) .unrecognised)) := by
  intro expr
  have hwell : expr.Passes wellFormed := passes_of_build h
  have hbuild : ofText .standard expr.render = build .standard expr.text := by
    rw [ofText, render, String.toList_ofList]
  have hlegible := passes_legible_match_iff hwell
  rw [hbuild]
  refine ⟨⟨fun hback => ?_, ?_⟩, fun hillegible again hagain => ?_, ?_⟩
  · have hpasses := passes_legible_of_build rfl hwell hback (.inl rfl)
    obtain ⟨hgrouped, hleft⟩ := hlegible.1 hpasses
    exact ⟨hgrouped, hleft, (build_text_iff rfl hwell hpasses).1 hback⟩
  · rintro ⟨hgrouped, hleft, hfaithful⟩
    exact (build_text_iff rfl hwell (hlegible.2 ⟨hgrouped, hleft⟩)).2 hfaithful
  · cases heq : again.beq expr with
    | false => rfl
    | true =>
      exact absurd (hlegible.1 (passes_legible_of_build rfl hwell hagain (.inr heq))) hillegible
  · intro hgrouped hleft hfaithful
    exact build_text_match_of_grouped rfl hwell hgrouped hleft hfaithful

/-- The expression `@.a =~ n`. -/
def fieldMatchesNumber (n : Int64) : Expr :=
  .binary .matchPattern (.selector .current [.current, .key "a"]) (.literal (.integer n))

/-- A number without a sign comes back. -/
theorem ofText_render_match_of_unsigned :
    ofText .standard "@.a =~ 1" = .ok (some (fieldMatchesNumber 1)) ∧
      ofText .standard (fieldMatchesNumber 1).render = .ok (some (fieldMatchesNumber 1)) := by
  have h : ofText .standard "@.a =~ 1" = .ok (some (fieldMatchesNumber 1)) := by
    with_unfolding_all rfl
  have hfaithful : (fieldMatchesNumber 1).Passes faithful :=
    passes_fieldOperation trivial trivial trivial trivial trivial trivial
  exact ⟨h, (ofText_render_match h).1.2 ⟨by decide, passes_legible_field "a", hfaithful⟩⟩

/-- A number with a minus sign does not: `(-1)` is no constant. -/
theorem ofText_render_match_of_signed :
    ofText .standard "@.a =~ -1" = .ok (some (fieldMatchesNumber (-1))) ∧
      (fieldMatchesNumber (-1)).render = "@['a'] =~ (-1)" ∧
      ofText .standard (fieldMatchesNumber (-1)).render =
        .error (.badExpression "(-1)" .unrecognised) := by
  have h : ofText .standard "@.a =~ -1" = .ok (some (fieldMatchesNumber (-1))) := by
    with_unfolding_all rfl
  have hrender : (fieldMatchesNumber (-1)).render = "@['a'] =~ (-1)" := by
    with_unfolding_all rfl
  have hoperand : String.ofList (literal (.integer (-1))).operandText = "(-1)" := by
    with_unfolding_all rfl
  have hfault := @build_text_match_of_grouped .standard _ _ rfl (passes_of_build h) rfl
    (passes_legible_field "a") (passes_faithful_field "a")
  rw [hoperand] at hfault
  refine ⟨h, hrender, ?_⟩
  rw [ofText, render, String.toList_ofList]
  exact hfault

end PathQuery.Expr
