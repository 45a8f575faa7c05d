import Mathlib.Data.List.Nodup
import Mathlib.Data.List.Perm.Basic
import PathQuery.Proofs.WalkStep

/-!
# Descents

A descent tries the rest of a query on every node of a value, a node before what is below it, and
collects what the rest gives. So it gives what the value itself adds, followed by what the same descent
gives in each of its children. Nodes are told apart by their place: the numbers of the children on the
way from the top. Each place is visited once, also where equal values stand at several of them.
-/

namespace PathQuery

/-- A list of everything that can be looked up, with each key used once. -/
def ListsOnce {α β : Type} (lookup : α → Option β) (xs : List β) : Prop :=
  ∃ keys : List α, keys.Nodup ∧ (∀ key, key ∈ keys ↔ (lookup key).isSome) ∧
    List.Forall₂ (fun key x => lookup key = some x) keys xs

theorem ListsOnce.perm {α β : Type} {lookup : α → Option β} {xs ys : List β}
    (h : ListsOnce lookup xs) (hperm : xs.Perm ys) : ListsOnce lookup ys := by
  obtain ⟨keys, hnodup, hmem, hkeys⟩ := h
  have hcomp : Relation.Comp (List.Forall₂ fun key x => lookup key = some x) List.Perm keys ys :=
    ⟨xs, hkeys, hperm⟩
  rw [List.forall₂_comp_perm_eq_perm_comp_forall₂] at hcomp
  obtain ⟨keys', hkeysPerm, hkeys'⟩ := hcomp
  exact ⟨keys', hkeysPerm.nodup_iff.1 hnodup, fun key => hkeysPerm.mem_iff.symm.trans (hmem key),
    hkeys'⟩

namespace Value

/-- The values directly below a value: the elements of an array, or the fields of an object in key
order. -/
def children : Value → List Value
  | .array items => items
  | .object fields => Fields.values fields
  | _ => []

/-- The node at a place, which is given by the numbers of the children on the way to it. -/
def at? : Value → List Nat → Option Value
  | v, [] => some v
  | v, i :: place => v.children[i]?.bind fun child => child.at? place

/-- The node at a place below one of several values. -/
def below? (values : List Value) : List Nat → Option Value
  | [] => none
  | i :: place => values[i]?.bind fun v => v.at? place

mutual

theorem descendants_eq : ∀ v : Value, v.descendants = v :: v.children.flatMap descendants
  | .array items => by rw [descendants, descendantsOfItems_eq items, children]
  | .object fields => by rw [descendants, descendantsOfFields_eq fields, children]
  | .null | .bool _ | .integer _ | .float _ | .string _ => rfl

theorem descendantsOfItems_eq : ∀ items : List Value,
    descendantsOfItems items = items.flatMap descendants
  | [] => rfl
  | item :: items => by rw [descendantsOfItems, descendantsOfItems_eq items, List.flatMap_cons]

theorem descendantsOfFields_eq : ∀ fields : List (String × Value),
    descendantsOfFields fields = (Fields.values fields).flatMap descendants
  | [] => rfl
  | (_, field) :: fields => by
    rw [descendantsOfFields, descendantsOfFields_eq fields]
    rfl

end

theorem sizeOf_lt_of_mem_children {v child : Value} (h : child ∈ v.children) :
    sizeOf child < sizeOf v := by
  cases v with
  | array items =>
    have hlt : sizeOf child < sizeOf items := List.sizeOf_lt_of_mem h
    rw [array.sizeOf_spec]
    omega
  | object fields =>
    obtain ⟨⟨name, value⟩, hfield, rfl⟩ := List.mem_map.1 h
    have hlt : sizeOf (name, value) < sizeOf fields := List.sizeOf_lt_of_mem hfield
    rw [Prod.mk.sizeOf_spec] at hlt
    rw [object.sizeOf_spec]
    show sizeOf value < _
    omega
  | _ => cases h

/-- What holds of a value whenever it holds of its children holds of every value. -/
theorem children_induction {P : Value → Prop} (h : ∀ v, (∀ child ∈ v.children, P child) → P v)
    (v : Value) : P v :=
  h v fun child hchild =>
    have := sizeOf_lt_of_mem_children hchild
    children_induction h child
termination_by sizeOf v

/-! ## Places -/

/-- A value stands at its own place, and all other places are below its children. -/
theorem listsOnce_cons {v : Value} {below : List Value} (h : ListsOnce (below? v.children) below) :
    ListsOnce v.at? (v :: below) := by
  obtain ⟨places, hnodup, hmem, hplaces⟩ := h
  have hnil : [] ∉ places := fun h => Bool.false_ne_true ((hmem []).1 h)
  refine ⟨[] :: places, List.nodup_cons.2 ⟨hnil, hnodup⟩, fun place => ?_, .cons rfl ?_⟩
  · cases place with
    | nil => exact iff_of_true List.mem_cons_self rfl
    | cons i place =>
      rw [List.mem_cons, or_iff_right (List.cons_ne_nil i place)]
      exact hmem (i :: place)
  · refine hplaces.imp fun place node hnode => ?_
    cases place with
    | nil => cases hnode
    | cons i place => exact hnode

/-- The numbers of the other values grow by one when a value is put before them. -/
def nextPlace : List Nat → List Nat
  | [] => []
  | i :: place => (i + 1) :: place

theorem nextPlace_injective : Function.Injective nextPlace := by
  intro place place' h
  match place, place' with
  | [], [] => rfl
  | i :: place, i' :: place' =>
    obtain ⟨hi, rfl⟩ := List.cons.inj h
    rw [Nat.succ.inj hi]

theorem below?_nextPlace (v : Value) (values : List Value) (place : List Nat) :
    below? (v :: values) (nextPlace place) = below? values place := by
  cases place <;> rfl

theorem listsOnce_append {v : Value} {values nodes others : List Value} (h : ListsOnce v.at? nodes)
    (hothers : ListsOnce (below? values) others) :
    ListsOnce (below? (v :: values)) (nodes ++ others) := by
  obtain ⟨places, hnodup, hmem, hplaces⟩ := h
  obtain ⟨places', hnodup', hmem', hplaces'⟩ := hothers
  have hnil : [] ∉ places' := fun h => Bool.false_ne_true ((hmem' []).1 h)
  refine ⟨places.map (0 :: ·) ++ places'.map nextPlace, ?_, fun place => ?_, ?_⟩
  · refine List.nodup_append.2 ⟨List.Nodup.map List.cons_injective hnodup,
      List.Nodup.map nextPlace_injective hnodup', fun place hplace place' hplace' he => ?_⟩
    obtain ⟨first, -, rfl⟩ := List.mem_map.1 hplace
    obtain ⟨second, -, hsecond⟩ := List.mem_map.1 hplace'
    rw [← he] at hsecond
    cases second <;> cases hsecond
  · rw [List.mem_append, List.mem_map, List.mem_map]
    match place with
    | [] =>
      refine iff_of_false ?_ Bool.false_ne_true
      rintro (⟨place, -, he⟩ | ⟨place, hplace, he⟩)
      · cases he
      · cases place with
        | nil => exact hnil hplace
        | cons => cases he
    | 0 :: place =>
      refine Iff.trans ⟨?_, fun h => .inl ⟨place, h, rfl⟩⟩ (hmem place)
      rintro (⟨place, hplace, he⟩ | ⟨place, -, he⟩)
      · cases he
        exact hplace
      · cases place <;> cases he
    | (i + 1) :: place =>
      refine Iff.trans ⟨?_, fun h => .inr ⟨i :: place, h, rfl⟩⟩ (hmem' (i :: place))
      rintro (⟨place, -, he⟩ | ⟨place, hplace, he⟩)
      · cases he
      · cases place with
        | nil => cases he
        | cons => cases he; exact hplace
  · refine List.rel_append (List.forall₂_map_left_iff.2 hplaces) (List.forall₂_map_left_iff.2 ?_)
    exact hplaces'.imp fun place node hnode => (below?_nextPlace v values place).trans hnode

theorem listsOnce_flatMap {values : List Value} (f : Value → List Value)
    (h : ∀ v ∈ values, ListsOnce v.at? (f v)) : ListsOnce (below? values) (values.flatMap f) := by
  induction values with
  | nil =>
    refine ⟨[], List.nodup_nil, fun place => iff_of_false List.not_mem_nil ?_, .nil⟩
    cases place <;> exact Bool.false_ne_true
  | cons v values ih =>
    rw [List.flatMap_cons]
    exact listsOnce_append (h v List.mem_cons_self)
      (ih fun v hv => h v (List.mem_cons_of_mem _ hv))

/-- The values in and below a value are its nodes, each once. -/
theorem listsOnce_descendants (v : Value) : ListsOnce v.at? v.descendants := by
  induction v using children_induction with
  | _ v ih =>
    rw [descendants_eq]
    exact listsOnce_cons (listsOnce_flatMap descendants ih)

/-- The children of all nodes are the nodes below the top. -/
theorem flatMap_children_descendants (v : Value) :
    (v.descendants.flatMap children).Perm (v.children.flatMap descendants) := by
  induction v using children_induction with
  | _ v ih =>
    have hnodes : v.children.flatMap descendants =
        v.children.flatMap fun child => [child] ++ child.children.flatMap descendants :=
      congrArg (List.flatMap · v.children) (funext descendants_eq)
    rw [hnodes, descendants_eq, List.flatMap_cons, List.flatMap_assoc]
    refine List.Perm.trans ?_ (List.flatMap_append_perm _ _ _)
    rw [List.flatMap_singleton']
    exact (List.Perm.flatMap_left _ ih).append_left _

end Value

namespace Walk

open Value

/-- A descent collects what the rest of the query gives in each node. -/
theorem apply_descent_eq (w : Walk) {rest : List Segment} (hne : rest ≠ [])
    (hindex : ∀ s ∈ rest.head?, s.isIndex = false) (v : Value) :
    w.apply (.descent :: rest) v =
      .ok (.array (v.descendants.flatMap fun node => contribution (w.apply rest node))) := by
  obtain ⟨s, tail, rfl⟩ := List.exists_cons_of_ne_nil hne
  rw [apply, spreadDescent, hindex s rfl]
  rfl

theorem contribution_wildcard (w : Walk) (v : Value) :
    contribution (w.apply [.wildcard] v) = v.children := by
  rw [apply]
  cases v <;> rfl

/-- A descent never fails. It gives what the rest of the query gives in the value itself, followed by
what the descent gives in each child, so that the rest is tried once on every node. With a wildcard
behind it, it gives every node below the value once. -/
theorem apply_descent (w : Walk) {rest : List Segment} (hne : rest ≠ [])
    (hindex : ∀ s ∈ rest.head?, s.isIndex = false) :
    ∃ found : Value → List Value,
      (∀ v, w.apply (.descent :: rest) v = .ok (.array (found v)) ∧
        found v = contribution (w.apply rest v) ++ v.children.flatMap found ∧
        ∃ nodes, ListsOnce v.at? nodes ∧
          found v = nodes.flatMap fun node => contribution (w.apply rest node)) ∧
      (rest = [.wildcard] → ∀ v, ListsOnce (below? v.children) (found v)) := by
  refine ⟨fun v => v.descendants.flatMap fun node => contribution (w.apply rest node), fun v =>
    ⟨w.apply_descent_eq hne hindex v, ?_, v.descendants, v.listsOnce_descendants, rfl⟩, ?_⟩
  · dsimp only
    rw [descendants_eq, List.flatMap_cons, List.flatMap_assoc]
  · rintro rfl v
    have hfound : (v.descendants.flatMap fun node => contribution (w.apply [.wildcard] node)) =
        v.descendants.flatMap children :=
      congrArg (List.flatMap · v.descendants) (funext w.contribution_wildcard)
    dsimp only
    rw [hfound]
    exact (listsOnce_flatMap descendants fun child _ => child.listsOnce_descendants).perm
      v.flatMap_children_descendants.symm

/-- Equal values at different places count each, and an array that is found is spliced. -/
theorem apply_descent_wildcard :
    ([Segment.wildcard] ≠ [] ∧ ∀ s ∈ [Segment.wildcard].head?, s.isIndex = false) ∧
    (start .standard .null).apply [.descent, .wildcard]
      (.array [.array [.null, .array []], .null]) =
        .ok (.array [.array [.null, .array []], .null, .null, .array []]) ∧
    ListsOnce (below? [.array [.null, .array []], .null])
      [.array [.null, .array []], .null, .null, .array []] := by
  have hindex : ∀ s ∈ [Segment.wildcard].head?, s.isIndex = false := by
    simp [Segment.isIndex]
  obtain ⟨found, hfound, hwildcard⟩ :=
    (start .standard .null).apply_descent (List.cons_ne_nil _ _) hindex
  have happly := (hfound (.array [.array [.null, .array []], .null])).1
  have hresult : (start .standard .null).apply [.descent, .wildcard]
      (.array [.array [.null, .array []], .null]) =
        .ok (.array [.array [.null, .array []], .null, .null, .array []]) := by
    with_unfolding_all rfl
  rw [hresult] at happly
  refine ⟨⟨List.cons_ne_nil _ _, hindex⟩, hresult, ?_⟩
  rw [Value.array.inj (Except.ok.inj happly)]
  exact hwildcard rfl (.array [.array [.null, .array []], .null])

end Walk

end PathQuery
