import PathQuery.Proofs.Origin
import PathQuery.Proofs.WalkStep

/-!
# Filters within filters

A filter is kept as text, and the expression that is built from it may hold filters again. Their
texts are parts of its own, so it makes no difference what a walk does with longer ones. This is why
`keep` may refuse them, and `keep_eq` is what it comes to: a filter evaluates its expression as any
other expression is evaluated.
-/

namespace PathQuery

open Text

/-- The inspection that asks the text of every filter to be a part of a text. -/
def filtersIn (whole : List Char) : Inspection where
  segment s := ∀ text, s = .filter text → IsPart text.toList whole

theorem Anchor.filtersIn_segment (anchor : Anchor) (whole : List Char) :
    anchor.segment.Passes (filtersIn whole) := by
  cases anchor <;> exact Segment.passes_of_exprs_eq_nil nofun rfl

theorem Expr.Passes.filtersIn_trans {part whole : List Char} (hpart : IsPart part whole)
    {expr : Expr} (h : expr.Passes (filtersIn part)) : expr.Passes (filtersIn whole) :=
  h.imp (fun _ _ => trivial) (fun _ hs text he => (hs text he).trans hpart) fun _ _ => trivial

/-- The filters in a segment of a word, and those in its expressions, are parts of what the word is
part of. -/
theorem Segment.passes_filtersIn_of_ofWord {build : ExprBuilder} {lenient : Bool}
    {word whole : List Char} {s : Segment} (h : ofWord lenient build word = .ok s)
    (hword : IsPart word whole)
    (hb : ∀ {text : List Char} {expr : Expr}, IsPart text whole →
      build text = .ok (some expr) → expr.Passes (filtersIn text)) : s.Passes (filtersIn whole) := by
  refine ⟨fun text he => ?_, fun expr hexpr => ?_⟩
  · subst he
    exact (isPart_of_ofWord_filter h).trans hword
  · obtain ⟨text, htext, hbuild⟩ := exists_build_of_ofWord h hexpr
    have hpart := htext.trans hword
    exact (hb hpart hbuild).filtersIn_trans hpart

namespace Expr

theorem passes_filtersIn_of_fromStep {settings : Settings} {build : ExprBuilder}
    {cs : List Char} {expr : Expr}
    (hb : ∀ {text : List Char} {expr : Expr}, IsPart text cs →
      build text = .ok (some expr) → expr.Passes (filtersIn text))
    (h : FromStep settings build cs expr) : expr.Passes (filtersIn cs) := by
  have hpart {text : List Char} {expr : Expr} (hpart : IsPart text cs)
      (hbuild : build text = .ok (some expr)) : expr.Passes (filtersIn cs) :=
    (hb hpart hbuild).filtersIn_trans hpart
  cases h with
  | inner htext hbuild => exact hpart htext hbuild
  | literal => exact .literal trivial
  | @selector anchor rest _ hwords =>
    refine passes_selector_iff.2 ⟨trivial, trivial, fun s hs => ?_⟩
    rcases List.mem_cons.1 hs with rfl | hs
    · exact anchor.filtersIn_segment cs
    · obtain ⟨word, -, hword, hs⟩ := hwords s hs
      exact Segment.passes_filtersIn_of_ofWord hs hword hb
  | unary htext hbuild => exact .unary trivial (hpart htext hbuild)
  | binary _ _ hleft hl hright hr => exact .binary trivial (hpart hleft hl) (hpart hright hr)
  | pattern hleft hl _ => exact .binary trivial (hpart hleft hl) (.literal trivial)

/-- The texts of the filters in an expression are parts of its text. -/
theorem passes_filtersIn_of_build {settings : Settings} {cs : List Char} {expr : Expr}
    (h : build settings cs = .ok (some expr)) : expr.Passes (filtersIn cs) :=
  build_induction passes_filtersIn_of_fromStep h

end Expr

namespace Walk

/-- The same walk with another way to apply filters. -/
def withFilter (w : Walk) (filter : String → List Value → Except EvalFault (List Value)) : Walk :=
  { w with filter := filter }

section Agreement

variable {w : Walk} {filter : String → List Value → Except EvalFault (List Value)} (v : Value)

theorem bound_withFilter (slot : Slot) (bound : Option Bound)
    (h : ∀ expr ∈ bound.bind Bound.expr?,
      (w.withFilter filter).evaluate expr v = w.evaluate expr v) :
    (w.withFilter filter).bound slot v bound = w.bound slot v bound := by
  match bound with
  | none | some (.literal n) => rw [Walk.bound, Walk.bound]
  | some (.computed expr) => rw [Walk.bound, Walk.bound, h expr rfl]

theorem choices_withFilter (members : List Member)
    (h : ∀ expr ∈ members.filterMap Member.expr?,
      (w.withFilter filter).evaluate expr v = w.evaluate expr v) :
    (w.withFilter filter).choices v members = w.choices v members := by
  induction members with
  | nil => rw [choices, choices]
  | cons member members ih =>
    have hrest := ih fun expr hexpr =>
      h expr (((List.sublist_cons_self member members).filterMap Member.expr?).subset hexpr)
    cases member with
    | index | key => rw [choices, choices, hrest]
    | computed expr => rw [choices, choices, hrest, h expr List.mem_cons_self]

variable {whole : List Char}
  (hfilter : ∀ text : String, IsPart text.toList whole → filter text = w.filter text)

include hfilter

theorem find_withFilter {s : Segment} (hs : (filtersIn whole).segment s)
    (h : ∀ expr ∈ s.exprs, (w.withFilter filter).evaluate expr v = w.evaluate expr v) :
    (w.withFilter filter).find v s = w.find v s := by
  cases s with
  | range start stop step =>
    have hbound (slot : Slot) (bound : Option Bound) (hbound : bound ∈ [start, stop, step]) :
        (w.withFilter filter).bound slot v bound = w.bound slot v bound :=
      bound_withFilter v slot bound fun expr hexpr =>
        h expr (List.mem_filterMap.2 ⟨bound, hbound, hexpr⟩)
    rw [find, find, slice, slice, hbound .rangeStart start (by simp),
      hbound .rangeStop stop (by simp), hbound .rangeStep step (by simp)]
    rfl
  | union members =>
    rw [find, find, choices_withFilter v members h]
    rfl
  | filter text =>
    have htext : (w.withFilter filter).filter text = w.filter text := hfilter text (hs text rfl)
    rw [find, find, htext]
  | script expr =>
    rw [find, find, h expr List.mem_cons_self]
    rfl
  | _ => rfl

theorem apply_withFilter {path : List Segment}
    (hpath : ∀ s ∈ path, (filtersIn whole).segment s)
    (h : ∀ s ∈ path, ∀ expr ∈ s.exprs, ∀ v,
      (w.withFilter filter).evaluate expr v = w.evaluate expr v) :
    (w.withFilter filter).apply path v = w.apply path v := by
  induction path generalizing v with
  | nil => rw [apply, apply]
  | cons s rest ih =>
    have hrest : (w.withFilter filter).apply rest = w.apply rest :=
      funext fun v => ih v (fun s hs => hpath s (List.mem_cons_of_mem _ hs))
        fun s hs => h s (List.mem_cons_of_mem _ hs)
    rw [apply_cons, apply_cons, find_withFilter v hfilter (hpath s List.mem_cons_self)
      fun expr hexpr => h s List.mem_cons_self expr hexpr v]
    refine bind_congr fun found => ?_
    cases found <;> simp only [passOn, hrest]

/-- Filters that do not occur in an expression have no part in its evaluation. -/
theorem evaluate_withFilter {expr : Expr} (h : expr.Passes (filtersIn whole)) :
    (w.withFilter filter).evaluate expr v = w.evaluate expr v := by
  induction h generalizing v with
  | literal => rw [evaluate, evaluate]
  | selector _ _ hpath _ ih =>
    rw [evaluate, evaluate]
    exact apply_withFilter v hfilter hpath fun s hs expr hexpr v => ih s hs expr hexpr v
  | unary _ _ ih => rw [evaluate, evaluate, ih v]
  | binary _ _ _ ihl ihr => rw [evaluate, evaluate, ihl v, ihr v]

omit v in
theorem holding_withFilter {expr : Expr} (h : expr.Passes (filtersIn whole)) (items : List Value) :
    (w.withFilter filter).holding expr items = w.holding expr items := by
  refine List.filter_congr fun item _ => ?_
  rw [evaluate_withFilter item hfilter h]

end Agreement

/-- A filter evaluates its expression in the walk that it stands in, filters within it included. -/
theorem keep_eq (settings : Settings) (root : Value) (text : String) (items : List Value) :
    keep settings root text items =
      match Expr.ofText settings text with
      | .error _ => .ok []
      | .ok none => .error (.query (.badExpression text .emptyFilter))
      | .ok (some expr) => .ok ((start settings root).holding expr items) := by
  cases hbuild : Expr.ofText settings text with
  | error fault => rw [keep, hbuild]
  | ok result =>
    cases result with
    | none => rw [keep, hbuild]
    | some expr =>
      have hparts : expr.Passes (filtersIn text.toList) := Expr.passes_filtersIn_of_build hbuild
      have hshort (inner : String) (hinner : IsPart inner.toList text.toList) :
          (fun items => if inner.length < text.length then keep settings root inner items
            else .ok []) = (start settings root).filter inner :=
        funext fun items => if_pos hinner.length_lt
      rw [keep, hbuild]
      exact congrArg Except.ok (holding_withFilter hshort hparts items)

end Walk

end PathQuery
