import PathQuery.Proofs.WalkStep

/-!
# Where results come from

A query takes a document apart but adds nothing to it. The scalars of a result are scalars of the
document, or strings that were cut out of its strings; what the expressions of a query give steers the
walk without becoming a part of the result. The one segment that brings in something new is the
length.
-/

namespace PathQuery

open Outcome

namespace Value

mutual

/-- The scalars in a value, at any depth. -/
def scalars : Value → List Value
  | .array items => scalarsOfItems items
  | .object fields => scalarsOfFields fields
  | v => [v]

/-- The scalars in the elements of an array. -/
def scalarsOfItems : List Value → List Value
  | [] => []
  | item :: rest => scalars item ++ scalarsOfItems rest

/-- The scalars in the fields of an object. -/
def scalarsOfFields : List (String × Value) → List Value
  | [] => []
  | (_, field) :: rest => scalars field ++ scalarsOfFields rest

end

/-- A scalar that a document accounts for: one of its own, or a string whose characters all come
from one of its strings. -/
inductive ComesFrom (document : Value) : Value → Prop
  | scalar {x : Value} : x ∈ document.scalars → ComesFrom document x
  | part {s t : String} : .string t ∈ document.scalars → s.toList ⊆ t.toList →
      ComesFrom document (.string s)

/-- A value that holds nothing but what a document accounts for. -/
def MadeFrom (v document : Value) : Prop :=
  ∀ x ∈ v.scalars, ComesFrom document x

theorem mem_scalars_array {x : Value} {items : List Value} :
    x ∈ (Value.array items).scalars ↔ ∃ item ∈ items, x ∈ item.scalars := by
  rw [scalars]
  induction items with
  | nil => simp [scalarsOfItems]
  | cons item items ih => simp [scalarsOfItems, ih]

theorem mem_scalars_object {x : Value} {fields : List (String × Value)} :
    x ∈ (Value.object fields).scalars ↔ ∃ v ∈ Fields.values fields, x ∈ v.scalars := by
  rw [scalars]
  induction fields with
  | nil => simp [scalarsOfFields, Fields.values]
  | cons field fields ih =>
    obtain ⟨key, v⟩ := field
    simp [scalarsOfFields, Fields.values, ih]

namespace MadeFrom

variable {u v w : Value}

theorem refl (v : Value) : v.MadeFrom v :=
  fun _ hx => .scalar hx

theorem trans (huv : u.MadeFrom v) (hvw : v.MadeFrom w) : u.MadeFrom w := by
  intro x hx
  cases huv x hx with
  | scalar hx => exact hvw x hx
  | @part s t ht hst =>
    cases hvw (.string t) ht with
    | scalar ht => exact .part ht hst
    | part ht' htt' => exact .part ht' (List.Subset.trans hst htt')

theorem array_iff {items : List Value} :
    (Value.array items).MadeFrom v ↔ ∀ item ∈ items, item.MadeFrom v := by
  constructor
  · intro h item hitem x hx
    exact h x (mem_scalars_array.2 ⟨item, hitem, hx⟩)
  · intro h x hx
    obtain ⟨item, hitem, hx⟩ := mem_scalars_array.1 hx
    exact h item hitem x hx

theorem of_mem_items {items : List Value} (h : v ∈ items) : v.MadeFrom (.array items) :=
  array_iff.1 (refl _) v h

theorem of_mem_values {fields : List (String × Value)} (h : v ∈ Fields.values fields) :
    v.MadeFrom (.object fields) :=
  fun _ hx => .scalar (mem_scalars_object.2 ⟨v, h, hx⟩)

theorem of_subset {s t : String} (h : s.toList ⊆ t.toList) :
    (Value.string s).MadeFrom (.string t) := by
  intro x hx
  obtain rfl : x = .string s := List.mem_singleton.1 hx
  exact .part List.mem_cons_self h

end MadeFrom

/-! ## Looking into a value -/

section Access

variable {v x : Value} {items : List Value}

theorem mem_of_getElem?_getD {i : Nat} (h : i < items.length) : items[i]?.getD .null ∈ items := by
  rw [List.getElem?_eq_getElem h]
  exact List.getElem_mem h

theorem madeFrom_of_field {name : String} (h : v.field name = .ok x) : x.MadeFrom v := by
  unfold field at h
  split at h
  · split at h
    · next hget =>
      cases h
      exact .of_mem_values (Fields.mem_values_of_get? hget)
    · cases h
  · cases h

/-- The null that stands for a missing element is never used: an index names a position. -/
theorem madeFrom_of_element {indexObjects : Bool} {n : Int64}
    (h : v.element indexObjects n = .ok x) : x.MadeFrom v := by
  unfold element at h
  split at h
  · obtain ⟨place, hplace, h⟩ := bind_eq_ok.1 h
    cases h
    exact .of_mem_items (mem_of_getElem?_getD (position_lt hplace))
  · obtain ⟨place, hplace, h⟩ := bind_eq_ok.1 h
    cases h
    rw [List.getElem?_eq_getElem (position_lt hplace)]
    refine .of_subset ?_
    intro c hc
    rw [String.toList_singleton, List.mem_singleton] at hc
    rw [hc]
    exact List.getElem_mem _
  · split at h
    · obtain ⟨place, hplace, h⟩ := bind_eq_ok.1 h
      cases h
      refine .of_mem_values (mem_of_getElem?_getD ?_)
      rw [Fields.length_values]
      exact position_lt hplace
    · cases h
  · cases h

theorem madeFrom_of_members {operation : Operation} (h : v.members operation = .ok items)
    (hx : x ∈ items) : x.MadeFrom v := by
  unfold members at h
  split at h
  · cases h
    exact .of_mem_items hx
  · cases h
    exact .of_mem_values hx
  · cases h

theorem mem_of_mem_filterMap_getElem? {α : Type} {y : α} {ys : List α} {positions : List Nat}
    (h : y ∈ positions.filterMap (ys[·]?)) : y ∈ ys := by
  obtain ⟨i, -, hi⟩ := List.mem_filterMap.1 h
  exact List.mem_of_getElem? hi

theorem madeFrom_of_select_items {positions : List Nat} (h : v.select positions = .items items)
    (hx : x ∈ items) : x.MadeFrom v := by
  unfold select at h
  split at h
  · cases h
    exact .of_mem_items (mem_of_mem_filterMap_getElem? hx)
  · cases h
  · cases h
    exact .of_mem_values (mem_of_mem_filterMap_getElem? hx)
  · cases h
    cases hx

theorem madeFrom_of_select_text {positions : List Nat} {s : String}
    (h : v.select positions = .text s) : (Value.string s).MadeFrom v := by
  unfold select at h
  split at h
  · cases h
  · cases h
    refine .of_subset ?_
    rw [String.toList_ofList]
    exact fun c hc => mem_of_mem_filterMap_getElem? hc
  · cases h
  · cases h

theorem madeFrom_of_chooseItem {choice : Choice} (h : chooseItem items choice = .ok x) :
    x.MadeFrom (.array items) := by
  cases choice with
  | index n =>
    obtain ⟨place, hplace, h⟩ := bind_eq_ok.1 h
    cases h
    exact .of_mem_items (mem_of_getElem?_getD (position_lt hplace))
  | key name => cases h

theorem madeFrom_of_chooseFields {indexObjects : Bool} {fields : List (String × Value)}
    {choices : List Choice} {found : List Value} {missing : List String}
    (h : chooseFields indexObjects fields choices = .ok (found, missing)) (hx : x ∈ found) :
    x.MadeFrom (.object fields) := by
  induction choices generalizing found missing with
  | nil => cases h; cases hx
  | cons choice choices ih =>
    cases choice with
    | key name =>
      obtain ⟨⟨found', missing'⟩, hrest, h⟩ := bind_eq_ok.1 h
      dsimp only at h
      split at h
      · next hget =>
        cases h
        rcases List.mem_cons.1 hx with rfl | hx
        · exact .of_mem_values (Fields.mem_values_of_get? hget)
        · exact ih hrest hx
      · cases h
        exact ih hrest hx
    | index n =>
      rw [chooseFields] at h
      split at h
      · obtain ⟨place, -, h⟩ := bind_eq_ok.1 h
        obtain ⟨⟨found', missing'⟩, hrest, h⟩ := bind_eq_ok.1 h
        cases h
        rcases List.mem_append.1 hx with hx | hx
        · exact .of_mem_values (List.mem_of_getElem? (Option.mem_toList.1 hx))
        · exact ih hrest hx
      · cases h

theorem madeFrom_of_choose {indexObjects : Bool} {choices : List Choice}
    (h : v.choose indexObjects choices = .ok items) (hx : x ∈ items) : x.MadeFrom v := by
  unfold choose at h
  split at h
  · obtain ⟨choice, -, hchoice⟩ := exists_of_mem_mapM h hx
    exact madeFrom_of_chooseItem hchoice
  · obtain ⟨⟨found, missing⟩, hfields, h⟩ := bind_eq_ok.1 h
    dsimp only at h
    split at h
    · cases h
      exact madeFrom_of_chooseFields hfields hx
    · cases h
  · cases h

mutual

theorem madeFrom_of_mem_descendants {x : Value} :
    ∀ {v : Value}, x ∈ v.descendants → x.MadeFrom v
  | .array items, h => by
    rw [descendants] at h
    rcases List.mem_cons.1 h with rfl | h
    · exact .refl _
    · obtain ⟨item, hitem, hx⟩ := exists_of_mem_descendantsOfItems h
      exact hx.trans (.of_mem_items hitem)
  | .object fields, h => by
    rw [descendants] at h
    rcases List.mem_cons.1 h with rfl | h
    · exact .refl _
    · obtain ⟨field, hfield, hx⟩ := exists_of_mem_descendantsOfFields h
      exact hx.trans (.of_mem_values hfield)
  | .null, h | .bool _, h | .integer _, h | .float _, h | .string _, h => by
    rw [List.mem_singleton.1 h]
    exact .refl _

theorem exists_of_mem_descendantsOfItems {x : Value} : ∀ {items : List Value},
    x ∈ descendantsOfItems items → ∃ item ∈ items, x.MadeFrom item
  | [], h => by cases h
  | item :: items, h => by
    rw [descendantsOfItems] at h
    rcases List.mem_append.1 h with h | h
    · exact ⟨item, List.mem_cons_self, madeFrom_of_mem_descendants h⟩
    · obtain ⟨item', hitem', hx⟩ := exists_of_mem_descendantsOfItems h
      exact ⟨item', List.mem_cons_of_mem _ hitem', hx⟩

theorem exists_of_mem_descendantsOfFields {x : Value} : ∀ {fields : List (String × Value)},
    x ∈ descendantsOfFields fields → ∃ v ∈ Fields.values fields, x.MadeFrom v
  | [], h => by cases h
  | (_, field) :: fields, h => by
    rw [descendantsOfFields] at h
    rcases List.mem_append.1 h with h | h
    · exact ⟨field, List.mem_cons_self, madeFrom_of_mem_descendants h⟩
    · obtain ⟨field', hfield', hx⟩ := exists_of_mem_descendantsOfFields h
      exact ⟨field', List.mem_cons_of_mem _ hfield', hx⟩

end

theorem madeFrom_of_mem_spliced (h : x ∈ v.spliced) : x.MadeFrom v := by
  cases v with
  | array items => exact .of_mem_items h
  | _ =>
    rw [List.mem_singleton.1 h]
    exact .refl _

end Access

end Value

namespace Walk

/-- The values that a segment found. -/
def Found.values : Found → List Value
  | .one v => [v]
  | .many items => items

variable {w : Walk} {document v x : Value}

theorem exists_of_mem_successes {next : Value → Except EvalFault Value} {items : List Value}
    (h : x ∈ successes next items) : ∃ item ∈ items, next item = .ok x := by
  obtain ⟨item, hitem, hx⟩ := List.mem_filterMap.1 h
  cases hnext : next item with
  | error fault => rw [hnext] at hx; cases hx
  | ok y =>
    rw [hnext] at hx
    cases hx
    exact ⟨item, hitem, hnext⟩

theorem exists_of_mem_collect {s : Segment} {results : List Value} (h : x ∈ s.collect results) :
    ∃ result ∈ results, x.MadeFrom result := by
  cases s with
  | descent =>
    obtain ⟨result, hresult, hx⟩ := List.mem_flatMap.1 h
    exact ⟨result, hresult, Value.madeFrom_of_mem_spliced hx⟩
  | _ => exact ⟨x, h, .refl x⟩

theorem madeFrom_of_subscript {choice : Value.Choice} (h : w.subscript v choice = .ok x) :
    x.MadeFrom v := by
  cases choice with
  | key name => exact Value.madeFrom_of_field h
  | index n => exact Value.madeFrom_of_element h

theorem madeFrom_of_slice {start stop step : Option Bound} {found : Found}
    (h : w.slice v start stop step = .ok found) (hx : x ∈ found.values) : x.MadeFrom v := by
  obtain ⟨positions, ⟨items, hselect, rfl⟩ | ⟨s, hselect, rfl⟩⟩ := exists_select_of_slice h
  · exact Value.madeFrom_of_select_items hselect hx
  · rw [List.mem_singleton.1 hx]
    exact Value.madeFrom_of_select_text hselect

/-- A walk whose filters keep nothing but what they are given. -/
def FiltersSelect (w : Walk) : Prop :=
  ∀ {text items kept}, w.filter text items = .ok kept → kept ⊆ items

/-- What a segment finds is a part of the value at hand or the document itself, unless it is the
length. -/
theorem madeFrom_of_find (hw : w.FiltersSelect) {s : Segment} (hs : s ≠ .length) {found : Found}
    (h : w.find v s = .ok found) (hx : x ∈ found.values) : x.MadeFrom v ∨ x = w.root := by
  cases s with
  | root =>
    cases h
    exact .inr (List.mem_singleton.1 hx)
  | current =>
    cases h
    rw [List.mem_singleton.1 hx]
    exact .inl (.refl v)
  | wildcard =>
    obtain ⟨items, hitems, rfl⟩ := map_eq_ok.1 h
    exact .inl (Value.madeFrom_of_members hitems hx)
  | descent =>
    cases h
    exact .inl (Value.madeFrom_of_mem_descendants hx)
  | key name =>
    obtain ⟨y, hy, rfl⟩ := map_eq_ok.1 h
    rw [List.mem_singleton.1 hx]
    exact .inl (Value.madeFrom_of_field hy)
  | index n =>
    obtain ⟨y, hy, rfl⟩ := map_eq_ok.1 h
    rw [List.mem_singleton.1 hx]
    exact .inl (Value.madeFrom_of_element hy)
  | length => exact absurd rfl hs
  | range start stop step => exact .inl (madeFrom_of_slice h hx)
  | union members =>
    obtain ⟨choices, -, h⟩ := bind_eq_ok.1 h
    obtain ⟨items, hitems, h⟩ := bind_eq_ok.1 h
    cases h
    exact .inl (Value.madeFrom_of_choose hitems hx)
  | filter text =>
    obtain ⟨items, hitems, h⟩ := bind_eq_ok.1 h
    obtain ⟨kept, hkept, h⟩ := bind_eq_ok.1 h
    cases h
    exact .inl (Value.madeFrom_of_members hitems (hw hkept hx))
  | script expr =>
    obtain ⟨result, -, h⟩ := bind_eq_ok.1 h
    obtain ⟨choice, -, h⟩ := bind_eq_ok.1 h
    obtain ⟨y, hy, h⟩ := bind_eq_ok.1 h
    cases h
    rw [List.mem_singleton.1 hx]
    exact .inl (madeFrom_of_subscript hy)

/-- Passing on what was found adds nothing, if the rest of the query adds nothing. -/
theorem madeFrom_of_passOn {s : Segment} {rest : List Segment} {found : Found} {result : Value}
    (hrest : ∀ {v result}, v.MadeFrom document → w.apply rest v = .ok result →
      result.MadeFrom document)
    (hfound : ∀ x ∈ found.values, x.MadeFrom document)
    (h : w.passOn s rest found = .ok result) : result.MadeFrom document := by
  cases found with
  | one v => exact hrest (hfound v List.mem_cons_self) h
  | many items =>
    -- the array is the result itself, or what an index behind it applies to
    have hitems : (Value.array items).MadeFrom document := Value.MadeFrom.array_iff.2 hfound
    rw [passOn.eq_def] at h
    dsimp only at h
    split at h
    · cases h
      exact hitems
    · split at h
      · exact hrest hitems h
      · cases h
        refine Value.MadeFrom.array_iff.2 fun x hx => ?_
        obtain ⟨y, hy, hxy⟩ := exists_of_mem_collect hx
        obtain ⟨item, hitem, hnext⟩ := exists_of_mem_successes hy
        exact hxy.trans (hrest (hfound item hitem) hnext)

/-- A walk from a part of the document gives a part of the document. -/
theorem madeFrom_of_apply (hw : w.FiltersSelect) (hroot : w.root.MadeFrom document)
    {path : List Segment} (hpath : .length ∉ path) {result : Value} (hv : v.MadeFrom document)
    (h : w.apply path v = .ok result) : result.MadeFrom document := by
  induction path generalizing v result with
  | nil =>
    rw [apply] at h
    cases h
    exact hv
  | cons s rest ih =>
    rw [List.mem_cons, not_or] at hpath
    obtain ⟨hs, hrest⟩ := hpath
    rw [apply_cons] at h
    obtain ⟨found, hfind, h⟩ := bind_eq_ok.1 h
    refine madeFrom_of_passOn (ih hrest) (fun x hx => ?_) h
    rcases madeFrom_of_find hw (Ne.symm hs) hfind hx with hx | rfl
    · exact hx.trans hv
    · exact hroot

theorem filtersSelect_start (settings : Settings) (root : Value) :
    (start settings root).FiltersSelect := by
  intro text items kept h
  change keep settings root text items = .ok kept at h
  rw [keep] at h
  split at h
  · cases h
    exact List.nil_subset items
  · cases h
  · cases h
    exact List.filter_sublist.subset

end Walk

/-- Evaluation invents nothing: unless the query asks for a length, every scalar in its result is a
scalar of the document, or a string whose characters all come from one string of the document. What
is not a string is therefore in the document as it is, null included. -/
theorem Query.madeFrom_of_evaluate {settings : Settings} {query : Query} {document result : Value}
    (hquery : .length ∉ query) (h : query.evaluate settings document = .ok result) :
    result.MadeFrom document ∧
    ∀ x ∈ result.scalars, (∀ s, x ≠ .string s) → x ∈ document.scalars := by
  have hresult : result.MadeFrom document :=
    Walk.madeFrom_of_apply (Walk.filtersSelect_start settings document) (.refl document) hquery
      (.refl document) h
  refine ⟨hresult, fun x hx hstring => ?_⟩
  cases hresult x hx with
  | scalar hx => exact hx
  | part => exact absurd rfl (hstring _)

/-- Where a slice starts is computed, but only the characters behind it come out. -/
theorem Query.madeFrom_of_evaluate_slice :
    Segment.length ∉
      [.root, .wildcard, .range (some (.computed (.literal (.integer 1)))) none none] ∧
    evaluate .standard
      [.root, .wildcard, .range (some (.computed (.literal (.integer 1)))) none none]
      (.array [.string "abc", .null, .string "xy"]) =
        .ok (.array [.string "bc", .string "y"]) ∧
    (Value.array [.string "bc", .string "y"]).MadeFrom
      (.array [.string "abc", .null, .string "xy"]) := by
  have hquery : Segment.length ∉
      [.root, .wildcard, .range (some (.computed (.literal (.integer 1)))) none none] := by
    simp
  have hresult : evaluate .standard
      [.root, .wildcard, .range (some (.computed (.literal (.integer 1)))) none none]
      (.array [.string "abc", .null, .string "xy"]) =
        .ok (.array [.string "bc", .string "y"]) := by
    with_unfolding_all rfl
  exact ⟨hquery, hresult, (madeFrom_of_evaluate hquery hresult).1⟩

end PathQuery
