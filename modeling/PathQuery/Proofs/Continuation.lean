import PathQuery.Proofs.WalkStep

/-!
# Continuing a walk

Walking a longer path is walking on from what a shorter one gives. As long as every segment finds one
value, the rest is walked on from that value. Behind a segment that finds several, the rest is tried
on each of them: what succeeds is collected and what fails is dropped, so that such a walk fails only
where the shorter one does. An index is the exception, which applies to all of them as one array.
-/

namespace PathQuery

open Outcome

namespace Segment

/-- Whether a segment finds one value, if any. -/
def isDefinite : Segment → Bool
  | .root | .current | .key _ | .index _ | .length | .script _ => true
  | _ => false

/-- Whether a segment finds several values. A slice of a string is still one value. -/
def isSpread : Segment → Bool
  | .wildcard | .descent | .range _ _ _ | .union _ | .filter _ => true
  | _ => false

end Segment

namespace Walk

/-- A definite segment finds one value. -/
theorem exists_of_find_definite {w : Walk} {s : Segment} (hs : s.isDefinite = true) {v : Value}
    {found : Found} (h : w.find v s = .ok found) : ∃ x, found = .one x := by
  cases s with
  | root | current => cases h; exact ⟨_, rfl⟩
  | key | index | length =>
    obtain ⟨x, -, rfl⟩ := map_eq_ok.1 h
    exact ⟨x, rfl⟩
  | script expr =>
    obtain ⟨result, -, h⟩ := bind_eq_ok.1 h
    obtain ⟨choice, -, h⟩ := bind_eq_ok.1 h
    obtain ⟨x, -, h⟩ := bind_eq_ok.1 h
    exact ⟨x, (pure_eq_ok.1 h).symm⟩
  | _ => cases hs

/-- What a slice finds is a list, unless it is taken of a string. -/
theorem exists_of_slice {w : Walk} {v : Value} (hv : ∀ s, v ≠ .string s)
    {start stop step : Option Bound} {found : Found} (h : w.slice v start stop step = .ok found) :
    ∃ items, found = .many items := by
  obtain ⟨positions, ⟨items, -, rfl⟩ | ⟨s, hselect, -⟩⟩ := exists_select_of_slice h
  · exact ⟨items, rfl⟩
  · cases v with
    | string s => exact absurd rfl (hv s)
    | _ => cases hselect

/-- A segment that spreads finds several values. -/
theorem exists_of_find_spread {w : Walk} {s : Segment} (hs : s.isSpread = true) {v : Value}
    (hv : ∀ start stop step, s = .range start stop step → ∀ text, v ≠ .string text)
    {found : Found} (h : w.find v s = .ok found) : ∃ items, found = .many items := by
  cases s with
  | wildcard =>
    obtain ⟨items, -, rfl⟩ := map_eq_ok.1 h
    exact ⟨items, rfl⟩
  | descent => cases h; exact ⟨_, rfl⟩
  | range start stop step => exact exists_of_slice (hv start stop step rfl) h
  | union members =>
    obtain ⟨choices, -, h⟩ := bind_eq_ok.1 h
    obtain ⟨items, -, h⟩ := bind_eq_ok.1 h
    exact ⟨items, (pure_eq_ok.1 h).symm⟩
  | filter text =>
    obtain ⟨items, -, h⟩ := bind_eq_ok.1 h
    obtain ⟨kept, -, h⟩ := bind_eq_ok.1 h
    exact ⟨kept, (pure_eq_ok.1 h).symm⟩
  | _ => cases hs

/-- Behind definite segments a walk goes on from the one value that they find. -/
theorem apply_append_of_isDefinite (w : Walk) {front : List Segment}
    (hfront : ∀ s ∈ front, s.isDefinite = true) (rest : List Segment) (v : Value) :
    w.apply (front ++ rest) v = (do w.apply rest (← w.apply front v)) := by
  induction front generalizing v with
  | nil => rw [apply]; rfl
  | cons s front ih =>
    rw [List.cons_append, apply_cons, apply_cons]
    cases hfind : w.find v s with
    | error fault => rfl
    | ok found =>
      obtain ⟨x, rfl⟩ := exists_of_find_definite (hfront s List.mem_cons_self) hfind
      exact ih (fun s hs => hfront s (List.mem_cons_of_mem _ hs)) x

/-- A walk that spreads at its end gives the array of what it finds there, and a longer one passes
this on. -/
theorem exists_apply_append_singleton (w : Walk) {front : List Segment}
    (hfront : ∀ s ∈ front, s.isDefinite = true) {t : Segment} (ht : t.isSpread = true) {v : Value}
    (hv : ∀ start stop step, t = .range start stop step →
      ∀ text, w.apply front v ≠ .ok (.string text)) :
    ∃ outcome : Except EvalFault (List Value),
      w.apply (front ++ [t]) v = outcome.map .array ∧
      ∀ rest, w.apply (front ++ t :: rest) v =
        outcome.bind fun items => w.passOn t rest (.many items) := by
  have hsplit (rest : List Segment) := w.apply_append_of_isDefinite hfront (t :: rest) v
  cases hx : w.apply front v with
  | error fault =>
    rw [hx] at hsplit
    exact ⟨.error fault, hsplit [], hsplit⟩
  | ok x =>
    rw [hx] at hsplit
    have hcons (rest : List Segment) : w.apply (front ++ t :: rest) v =
        (do w.passOn t rest (← w.find x t)) := (hsplit rest).trans (w.apply_cons t rest x)
    cases hfind : w.find x t with
    | error fault =>
      rw [hfind] at hcons
      exact ⟨.error fault, hcons [], hcons⟩
    | ok found =>
      obtain ⟨items, rfl⟩ := exists_of_find_spread ht
        (fun start stop step he text hx' => hv start stop step he text (hx' ▸ hx)) hfind
      rw [hfind] at hcons
      exact ⟨.ok items, hcons [], hcons⟩

/-- How a walk goes on. Definite segments hand on the one value that they find. Behind a segment that
spreads, a rest that does not start with an index neither adds a failure nor hides one: it gives the
array of what succeeds. A rest that starts with an index is walked on from the array itself. -/
theorem apply_append (w : Walk) (v : Value) {front : List Segment}
    (hfront : ∀ s ∈ front, s.isDefinite = true) (rest : List Segment) :
    w.apply (front ++ rest) v = (do w.apply rest (← w.apply front v)) ∧
    ∀ t : Segment, t.isSpread = true →
      (∀ start stop step, t = .range start stop step →
        ∀ text, w.apply front v ≠ .ok (.string text)) →
      (∀ found, w.apply (front ++ [t]) v = .ok found → ∃ items, found = .array items) ∧
      (rest ≠ [] → (∀ s ∈ rest.head?, s.isIndex = false) →
        (∀ fault, w.apply (front ++ t :: rest) v = .error fault ↔
          w.apply (front ++ [t]) v = .error fault) ∧
        ∀ items, w.apply (front ++ [t]) v = .ok (.array items) →
          w.apply (front ++ t :: rest) v =
            .ok (.array (t.collect (successes (w.apply rest) items)))) ∧
      ((∃ s ∈ rest.head?, s.isIndex = true) →
        w.apply (front ++ t :: rest) v = (do w.apply rest (← w.apply (front ++ [t]) v))) := by
  refine ⟨w.apply_append_of_isDefinite hfront rest v, fun t ht hv => ?_⟩
  obtain ⟨outcome, hend, hrest⟩ := w.exists_apply_append_singleton hfront ht hv
  rw [hend, hrest]
  refine ⟨fun found h => ?_, fun hne hindex => ?_, fun hindex => ?_⟩
  · obtain ⟨items, -, rfl⟩ := map_eq_ok.1 h
    exact ⟨items, rfl⟩
  · obtain ⟨s, tail, rfl⟩ := List.exists_cons_of_ne_nil hne
    have hpass (items : List Value) : w.passOn t (s :: tail) (.many items) =
        .ok (.array (t.collect (successes (w.apply (s :: tail)) items))) :=
      if_neg (by simp [hindex s rfl])
    cases outcome with
    | error fault => exact ⟨fun _ => Iff.rfl, nofun⟩
    | ok items =>
      refine ⟨fun fault => ⟨fun h => ?_, nofun⟩, fun items' h => ?_⟩
      · cases (hpass items).symm.trans h
      · cases h
        exact hpass items
  · obtain ⟨s, hs, hindex⟩ := hindex
    obtain ⟨tail, rfl⟩ := List.head?_eq_some_iff.1 hs
    cases outcome with
    | error fault => rfl
    | ok items => exact if_pos hindex

/-- A descent tries a key everywhere; what has none is dropped, and an array found is spliced. -/
theorem apply_append_at_descent :
    (∀ s ∈ [Segment.key "a"], s.isDefinite = true) ∧
    (start .standard .null).apply ([.key "a"] ++ .descent :: [.key "b"])
      (.object [("a", .array [.object [("b", .integer 1)], .object [("b", .array [.null])]])]) =
        .ok (.array [.integer 1, .null]) := by
  have hfront : ∀ s ∈ [Segment.key "a"], s.isDefinite = true := by
    simp [Segment.isDefinite]
  refine ⟨hfront, ?_⟩
  have h := ((start .standard .null).apply_append (.object [("a", .array
    [.object [("b", .integer 1)], .object [("b", .array [.null])]])]) hfront [.key "b"]).2
    .descent rfl nofun
  exact (h.2.1 (by simp) (by simp [Segment.isIndex])).2 _ rfl

end Walk

end PathQuery
