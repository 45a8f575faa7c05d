/-!
# Results and faults

When a computation that may fail gives a result, and what it fails with: for sequencing, for
`Except.map` and for a list of computations.
-/

namespace PathQuery.Outcome

variable {ε α β γ : Type}

theorem bind_eq_ok {x : Except ε α} {f : α → Except ε β} {b : β} :
    (x >>= f) = .ok b ↔ ∃ a, x = .ok a ∧ f a = .ok b := by
  cases x with
  | error e =>
    constructor
    · intro h; cases h
    · rintro ⟨a, h, -⟩; cases h
  | ok a =>
    constructor
    · intro h; exact ⟨a, rfl, h⟩
    · rintro ⟨a', h, hb⟩; cases h; exact hb

theorem bind_eq_error {x : Except ε α} {f : α → Except ε β} {e : ε} :
    (x >>= f) = .error e ↔ x = .error e ∨ ∃ a, x = .ok a ∧ f a = .error e := by
  cases x with
  | error e' =>
    constructor
    · intro h; cases h; exact .inl rfl
    · rintro (h | ⟨a, h, -⟩)
      · cases h; rfl
      · cases h
  | ok a =>
    constructor
    · intro h; exact .inr ⟨a, rfl, h⟩
    · rintro (h | ⟨a', h, he⟩)
      · cases h
      · cases h; exact he

theorem map_eq_ok {x : Except ε α} {f : α → β} {b : β} :
    x.map f = .ok b ↔ ∃ a, x = .ok a ∧ f a = b := by
  cases x with
  | error e =>
    constructor
    · intro h; cases h
    · rintro ⟨a, h, -⟩; cases h
  | ok a =>
    constructor
    · intro h; cases h; exact ⟨a, rfl, rfl⟩
    · rintro ⟨a', h, rfl⟩; cases h; rfl

theorem pure_eq_ok {a b : α} : (pure a : Except ε α) = .ok b ↔ a = b := by
  constructor
  · intro h; cases h; rfl
  · rintro rfl; rfl

theorem mapM_nil_eq_ok {f : α → Except ε β} {ys : List β} : [].mapM f = .ok ys ↔ ys = [] := by
  rw [List.mapM_nil, pure_eq_ok, eq_comm]

theorem mapM_cons_eq_ok {f : α → Except ε β} {x : α} {xs : List α} {ys : List β} :
    (x :: xs).mapM f = .ok ys ↔ ∃ y zs, f x = .ok y ∧ xs.mapM f = .ok zs ∧ ys = y :: zs := by
  rw [List.mapM_cons, bind_eq_ok]
  constructor
  · rintro ⟨y, hy, h⟩
    obtain ⟨zs, hzs, h⟩ := bind_eq_ok.1 h
    exact ⟨y, zs, hy, hzs, (pure_eq_ok.1 h).symm⟩
  · rintro ⟨y, zs, hy, hzs, rfl⟩
    exact ⟨y, hy, bind_eq_ok.2 ⟨zs, hzs, rfl⟩⟩

theorem mapM_concat_eq_ok {f : α → Except ε β} {x : α} {xs : List α} {ys : List β} :
    (xs ++ [x]).mapM f = .ok ys ↔ ∃ zs y, xs.mapM f = .ok zs ∧ f x = .ok y ∧ ys = zs ++ [y] := by
  induction xs generalizing ys with
  | nil =>
    simp only [List.nil_append, mapM_cons_eq_ok, mapM_nil_eq_ok]
    constructor
    · rintro ⟨y, _, hy, rfl, rfl⟩
      exact ⟨[], y, rfl, hy, rfl⟩
    · rintro ⟨_, y, rfl, hy, rfl⟩
      exact ⟨y, [], hy, rfl, rfl⟩
  | cons x' xs ih =>
    simp only [List.cons_append, mapM_cons_eq_ok, ih]
    constructor
    · rintro ⟨y', ws, hy', ⟨zs, y, hzs, hy, rfl⟩, rfl⟩
      exact ⟨y' :: zs, y, ⟨y', zs, hy', hzs, rfl⟩, hy, rfl⟩
    · rintro ⟨ws, y, ⟨y', zs, hy', hzs, rfl⟩, hy, rfl⟩
      exact ⟨y', zs ++ [y], hy', ⟨zs, y, hzs, hy, rfl⟩, rfl⟩

theorem length_of_mapM {f : α → Except ε β} {xs : List α} {ys : List β}
    (h : xs.mapM f = .ok ys) : ys.length = xs.length := by
  induction xs generalizing ys with
  | nil => rw [mapM_nil_eq_ok.1 h]; rfl
  | cons x xs ih =>
    obtain ⟨y, zs, -, hzs, rfl⟩ := mapM_cons_eq_ok.1 h
    rw [List.length_cons, List.length_cons, ih hzs]

/-- Every member of the result comes from a member of the list. -/
theorem exists_of_mem_mapM {f : α → Except ε β} {xs : List α} {ys : List β}
    (h : xs.mapM f = .ok ys) {y : β} (hy : y ∈ ys) : ∃ x ∈ xs, f x = .ok y := by
  induction xs generalizing ys with
  | nil => rw [mapM_nil_eq_ok.1 h] at hy; cases hy
  | cons x xs ih =>
    obtain ⟨z, zs, hz, hzs, rfl⟩ := mapM_cons_eq_ok.1 h
    rcases List.mem_cons.1 hy with rfl | hy
    · exact ⟨x, List.mem_cons_self, hz⟩
    · obtain ⟨x', hx', hfx⟩ := ih hzs hy
      exact ⟨x', List.mem_cons_of_mem _ hx', hfx⟩

/-- If a list of computations gives a result, so does each of them. -/
theorem exists_of_mapM_of_mem {f : α → Except ε β} {xs : List α} {ys : List β}
    (h : xs.mapM f = .ok ys) {x : α} (hx : x ∈ xs) : ∃ y, f x = .ok y := by
  induction xs generalizing ys with
  | nil => cases hx
  | cons z xs ih =>
    obtain ⟨y, zs, hy, hzs, -⟩ := mapM_cons_eq_ok.1 h
    rcases List.mem_cons.1 hx with rfl | hx
    · exact ⟨y, hy⟩
    · exact ih hzs hx

theorem mapM_mono {f g : α → Except ε β} {xs : List α} {ys : List β}
    (h : ∀ x ∈ xs, ∀ y, f x = .ok y → g x = .ok y) (hf : xs.mapM f = .ok ys) :
    xs.mapM g = .ok ys := by
  induction xs generalizing ys with
  | nil => exact hf
  | cons x xs ih =>
    obtain ⟨y, zs, hy, hzs, rfl⟩ := mapM_cons_eq_ok.1 hf
    exact mapM_cons_eq_ok.2 ⟨y, zs, h x List.mem_cons_self y hy,
      ih (fun x hx => h x (List.mem_cons_of_mem _ hx)) hzs, rfl⟩

theorem mapM_congr {f g : α → Except ε β} {xs : List α} (h : ∀ x ∈ xs, f x = g x) :
    xs.mapM f = xs.mapM g := by
  induction xs with
  | nil => rfl
  | cons x xs ih =>
    rw [List.mapM_cons, List.mapM_cons, h x List.mem_cons_self,
      ih fun y hy => h y (List.mem_cons_of_mem _ hy)]

/-- Going through the positions of a list is going through its members. -/
theorem mapM_range_length {f : Nat → Except ε β} {g : α → Except ε β} {xs : List α}
    (h : ∀ i x, xs[i]? = some x → f i = g x) : (List.range xs.length).mapM f = xs.mapM g := by
  induction xs generalizing f with
  | nil => rfl
  | cons x xs ih =>
    have hrest : (List.range xs.length).mapM (f ∘ Nat.succ) = xs.mapM g :=
      ih fun i y hy => h (i + 1) y hy
    rw [List.length_cons, List.range_succ_eq_map, List.mapM_cons, List.mapM_cons, List.mapM_map,
      h 0 x rfl, hrest]

/-- A computation gives back a list just when it gives back each member. -/
theorem mapM_eq_ok_self_iff {f : α → Except ε α} {xs : List α} :
    xs.mapM f = .ok xs ↔ ∀ x ∈ xs, f x = .ok x := by
  induction xs with
  | nil => exact ⟨fun _ => List.forall_mem_nil _, fun _ => rfl⟩
  | cons x xs ih =>
    rw [List.forall_mem_cons, ← ih, mapM_cons_eq_ok]
    constructor
    · rintro ⟨y, ys, hy, hys, he⟩
      obtain ⟨rfl, rfl⟩ := List.cons_eq_cons.1 he
      exact ⟨hy, hys⟩
    · rintro ⟨hx, hxs⟩
      exact ⟨x, xs, hx, hxs, rfl⟩

/-- Two computations on each member of a list are one after the other, or both at once. -/
theorem mapM_bind_eq_ok {f : α → Except ε β} {g : β → Except ε γ} {xs : List α} {zs : List γ} :
    (xs.mapM fun x => f x >>= g) = .ok zs ↔ ∃ ys, xs.mapM f = .ok ys ∧ ys.mapM g = .ok zs := by
  induction xs generalizing zs with
  | nil =>
    constructor
    · intro h
      exact ⟨[], rfl, h⟩
    · rintro ⟨ys, hys, h⟩
      rw [mapM_nil_eq_ok.1 hys] at h
      exact h
  | cons x xs ih =>
    rw [mapM_cons_eq_ok]
    constructor
    · rintro ⟨z, rest, hz, hrest, rfl⟩
      obtain ⟨y, hy, hz⟩ := bind_eq_ok.1 hz
      obtain ⟨ys, hys, hrest⟩ := ih.1 hrest
      exact ⟨y :: ys, mapM_cons_eq_ok.2 ⟨y, ys, hy, hys, rfl⟩,
        mapM_cons_eq_ok.2 ⟨z, rest, hz, hrest, rfl⟩⟩
    · rintro ⟨_, hall, h⟩
      obtain ⟨y, ys, hy, hys, rfl⟩ := mapM_cons_eq_ok.1 hall
      obtain ⟨z, rest, hz, hrest, rfl⟩ := mapM_cons_eq_ok.1 h
      exact ⟨z, rest, bind_eq_ok.2 ⟨y, hy, hz⟩, ih.2 ⟨ys, hys, hrest⟩, rfl⟩

theorem exists_mapM_eq_ok {f : α → Except ε β} {xs : List α} :
    (∃ ys, xs.mapM f = .ok ys) ↔ ∀ x ∈ xs, ∃ y, f x = .ok y := by
  constructor
  · rintro ⟨ys, hys⟩ x hx
    exact exists_of_mapM_of_mem hys hx
  · intro h
    induction xs with
    | nil => exact ⟨[], rfl⟩
    | cons x xs ih =>
      obtain ⟨y, hy⟩ := h x List.mem_cons_self
      obtain ⟨ys, hys⟩ := ih fun x hx => h x (List.mem_cons_of_mem _ hx)
      exact ⟨y :: ys, mapM_cons_eq_ok.2 ⟨y, ys, hy, hys, rfl⟩⟩

/-- A list of computations fails as the first member does that fails. -/
theorem mapM_eq_error {f : α → Except ε β} {xs : List α} {e : ε} :
    xs.mapM f = .error e ↔ ∃ front x back, xs = front ++ x :: back ∧
      (∀ y ∈ front, ∃ b, f y = .ok b) ∧ f x = .error e := by
  induction xs with
  | nil =>
    constructor
    · intro h; cases h
    · rintro ⟨front, x, back, hxs, -⟩
      cases front <;> cases hxs
  | cons y xs ih =>
    rw [List.mapM_cons, bind_eq_error]
    constructor
    · rintro (h | ⟨b, hb, h⟩)
      · exact ⟨[], y, xs, rfl, List.forall_mem_nil _, h⟩
      · rcases bind_eq_error.1 h with h | ⟨bs, -, h⟩
        · obtain ⟨front, x, back, rfl, hfront, hx⟩ := ih.1 h
          exact ⟨y :: front, x, back, rfl, List.forall_mem_cons.2 ⟨⟨b, hb⟩, hfront⟩, hx⟩
        · cases h
    · rintro ⟨front, x, back, hxs, hfront, hx⟩
      cases front with
      | nil =>
        cases hxs
        exact .inl hx
      | cons z front =>
        cases hxs
        obtain ⟨⟨b, hb⟩, hfront⟩ := List.forall_mem_cons.1 hfront
        exact .inr ⟨b, hb, bind_eq_error.2 (.inl (ih.2 ⟨front, x, back, rfl, hfront, hx⟩))⟩

/-! ## Faults -/

/-- Every fault that a computation may end in satisfies a condition. -/
def FailsOnlyWith (P : ε → Prop) (x : Except ε α) : Prop :=
  ∀ fault, x = .error fault → P fault

namespace FailsOnlyWith

variable {P Q : ε → Prop}

theorem ok (a : α) : FailsOnlyWith P (.ok a) := by
  intro fault h
  cases h

theorem error {fault : ε} (h : P fault) : FailsOnlyWith (α := α) P (.error fault) := by
  intro fault' h'
  cases h'
  exact h

theorem imp {x : Except ε α} (h : FailsOnlyWith P x) (hPQ : ∀ fault, P fault → Q fault) :
    FailsOnlyWith Q x :=
  fun fault hx => hPQ fault (h fault hx)

theorem bind_of_ok {x : Except ε α} {f : α → Except ε β} (hx : FailsOnlyWith P x)
    (hf : ∀ a, x = .ok a → FailsOnlyWith P (f a)) : FailsOnlyWith P (x >>= f) := by
  cases x with
  | error fault => exact error (hx fault rfl)
  | ok a => exact hf a rfl

theorem bind {x : Except ε α} {f : α → Except ε β} (hx : FailsOnlyWith P x)
    (hf : ∀ a, FailsOnlyWith P (f a)) : FailsOnlyWith P (x >>= f) :=
  hx.bind_of_ok fun a _ => hf a

theorem map {x : Except ε α} (hx : FailsOnlyWith P x) (f : α → β) : FailsOnlyWith P (x.map f) := by
  cases x with
  | error fault => exact error (hx fault rfl)
  | ok a => exact ok (f a)

theorem mapM_of_mem {f : α → Except ε β} {xs : List α} (hf : ∀ a ∈ xs, FailsOnlyWith P (f a)) :
    FailsOnlyWith P (xs.mapM f) := by
  induction xs with
  | nil => exact ok []
  | cons x xs ih =>
    have hrest := ih fun a ha => hf a (List.mem_cons_of_mem _ ha)
    rw [List.mapM_cons]
    exact (hf x List.mem_cons_self).bind fun y => hrest.bind fun ys => ok (y :: ys)

theorem mapM {f : α → Except ε β} (hf : ∀ a, FailsOnlyWith P (f a)) (xs : List α) :
    FailsOnlyWith P (xs.mapM f) :=
  mapM_of_mem fun a _ => hf a

end FailsOnlyWith

end PathQuery.Outcome
