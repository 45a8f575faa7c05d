import PathQuery.Proofs.RoundTrip
import PathQuery.Proofs.WalkStep

/-!
# Filtering by a field

Whatever characters a key and a text are made of, a filter that compares the one with the other
means just that, as long as both are quoted: it keeps the objects whose field is the text.
-/

namespace PathQuery

open Text Outcome

/-- A string between single quotes, with a backslash before each single quote and each
backslash. -/
def quoted (s : String) : String :=
  String.ofList (quote s.toList)

/-- The path that keeps the members whose field is a text. -/
def fieldFilter (key text : String) : String :=
  "$[?(@[" ++ quoted key ++ "] == " ++ quoted text ++ ")]"

/-- Whether a value is an object whose field is a text. -/
def Value.hasField (key text : String) : Value → Bool
  | .object fields =>
    match Fields.get? fields key with
    | some (.string s) => s == text
    | _ => false
  | _ => false

/-- The expression `@['key'] == 'text'`. -/
def Expr.fieldEquals (key text : String) : Expr :=
  .binary .eq (.selector .current [.current, .key key]) (.literal (.string text))

/-! ## Compiling the filter -/

namespace Query

variable {i : Inspection} {settings : Settings} {text : String}

theorem passes_filter (hquery : i.query [.root, .filter text]) (hroot : i.segment .root)
    (hfilter : i.segment (.filter text)) : Passes i [.root, .filter text] := by
  refine ⟨hquery, fun s hs => ?_⟩
  rcases List.mem_pair.1 hs with rfl | rfl
  · exact Segment.passes_of_exprs_eq_nil hroot rfl
  · exact Segment.passes_of_exprs_eq_nil hfilter rfl

/-- The canonical text of a filter right behind the root. -/
theorem toList_render_filter (text : String) : (render [.root, .filter text]).toList =
    '$' :: bracketed ('?' :: parenthesised text.toList) := by
  rw [render, String.toList_ofList]
  exact congrArg (List.cons '$') (List.append_nil _)

/-- A filter keeps the text it was written with, whether that can be built or not. -/
theorem compile_filter (hsettings : settings.priorities = Priority.default)
    (h : IsFilterText text.toList) :
    compile settings (render [.root, .filter text]) = .ok [.root, .filter text] := by
  have hlegible : Passes legible [.root, .filter text] :=
    passes_filter (Segment.isChain_apart_of_tail (by simp [Segment.isAnchor])) trivial trivial
  refine (compile_render_iff hsettings rfl (passes_filter trivial trivial h)).2 ⟨hlegible, ?_⟩
  exact passes_filter trivial trivial trivial

end Query

theorem Expr.Passes.isFilterText {expr : Expr} (h : expr.Passes wellFormed) :
    IsFilterText expr.render.toList := by
  rw [render, String.toList_ofList]
  exact ⟨h.balanced_text.parenthesised.brackets, h.balanced_text.parentheses, h.hasEnds.isBlank_eq⟩

/-- A filter written as an expression keeps what the expression holds for. -/
theorem Walk.exists_keep_render {settings : Settings}
    (hsettings : settings.priorities = Priority.default) {expr : Expr}
    (h : expr.Passes wellFormed) (hlegible : expr.Passes legible)
    (hfaithful : expr.Passes faithful) (root : Value) (items : List Value) :
    ∃ w : Walk, keep settings root expr.render items = .ok (w.holding expr items) := by
  have hbuild : Expr.ofText settings expr.render = .ok (some expr) := by
    rw [Expr.ofText, Expr.render, String.toList_ofList]
    exact (Expr.build_text_iff hsettings h hlegible).2 hfaithful
  rw [keep, hbuild]
  exact ⟨_, rfl⟩

namespace Expr

variable (key text : String)

theorem passes_wellFormed_fieldEquals : (fieldEquals key text).Passes wellFormed :=
  .binary ⟨nofun, nofun⟩ (passes_wellFormed_field key) (.literal trivial)

theorem passes_legible_fieldEquals : (fieldEquals key text).Passes legible :=
  .binary (fun _ => rfl) (passes_legible_field key) (.literal trivial)

theorem passes_faithful_fieldEquals : (fieldEquals key text).Passes faithful :=
  .binary trivial (passes_faithful_field key) (.literal trivial)

/-- The path is the canonical text of its query. -/
theorem fieldFilter_eq_render :
    fieldFilter key text = Query.render [.root, .filter (fieldEquals key text).render] := by
  have htext : (fieldEquals key text).text = ['@'] ++ (bracketed (quote key.toList) ++ []) ++
      ' ' :: (['=', '='] ++ ' ' :: quote text.toList) := rfl
  apply String.toList_injective
  simp [fieldFilter, quoted, Query.toList_render_filter, render, htext, bracketed, parenthesised]

end Expr

/-! ## Walking the filter -/

theorem Value.looseEq_string (v : Value) (text : String) :
    v.looseEq (.string text) = match v with
      | .string s => s == text
      | _ => false := by
  cases v <;> rfl

theorem Walk.evaluate_fieldEquals (w : Walk) (key text : String) (v : Value) :
    w.evaluate (.fieldEquals key text) v =
      (v.field key).map fun found => .bool (found.looseEq (.string text)) := by
  have hselector : w.evaluate (.selector .current [.current, .key key]) v = v.field key := by
    rw [evaluate, apply, apply]
    cases v.field key <;> rfl
  rw [Expr.fieldEquals, evaluate, hselector]
  cases v.field key <;> rfl

/-- The comparison fails or is false for whatever is not an object whose field is the text. -/
theorem Walk.holding_fieldEquals (w : Walk) (key text : String) (items : List Value) :
    w.holding (.fieldEquals key text) items = items.filter (Value.hasField key text) := by
  refine List.filter_congr fun v _ => ?_
  rw [evaluate_fieldEquals]
  cases v with
  | object fields =>
    rw [Value.field, Value.hasField]
    cases Fields.get? fields key with
    | none => rfl
    | some found =>
      show found.looseEq (.string text) = _
      rw [Value.looseEq_string]
      cases found <;> rfl
  | _ => rfl

/-- A filter right behind the root gives the array of the members that it keeps. -/
theorem Query.evaluate_filter {settings : Settings} {text : String} {document : Value}
    {items kept : List Value} (hitems : document.members .filter = .ok items)
    (hkept : Walk.keep settings document text items = .ok kept) :
    Query.evaluate settings [.root, .filter text] document = .ok (.array kept) := by
  rw [evaluate, Walk.apply]
  refine ((Walk.start settings document).apply_filter hitems text).trans ?_
  exact congrArg (Except.map Value.array) hkept

/-- A filter that compares a quoted key with a quoted text compiles, and evaluating it gives the
members that are objects whose field is the text, in their order. -/
theorem Query.evaluate_fieldFilter (key text : String) :
    ∃ query, compile .standard (fieldFilter key text) = .ok query ∧
      (∀ items, evaluate .standard query (.array items) =
        .ok (.array (items.filter (Value.hasField key text)))) ∧
      ∀ fields, evaluate .standard query (.object fields) =
        .ok (.array ((Fields.values fields).filter (Value.hasField key text))) := by
  have hwell := Expr.passes_wellFormed_fieldEquals key text
  have hkeep (document : Value) (items : List Value) :
      Walk.keep .standard document (Expr.fieldEquals key text).render items =
        .ok (items.filter (Value.hasField key text)) := by
    obtain ⟨w, hw⟩ := @Walk.exists_keep_render .standard rfl _ hwell
      (Expr.passes_legible_fieldEquals key text) (Expr.passes_faithful_fieldEquals key text)
      document items
    rw [hw, Walk.holding_fieldEquals]
  refine ⟨[.root, .filter (Expr.fieldEquals key text).render], ?_, fun items => ?_, fun fields => ?_⟩
  · rw [Expr.fieldFilter_eq_render]
    exact compile_filter rfl hwell.isFilterText
  · exact evaluate_filter rfl (hkeep _ items)
  · exact evaluate_filter rfl (hkeep _ (Fields.values fields))

end PathQuery
