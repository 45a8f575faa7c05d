/-!
# Fields in key order

The members of an object are pairs of a key and a value, ascending by key and without
repetition. Keys compare by code points, which is also the order of their UTF-8 bytes.
-/

namespace PathQuery

/-- Named values; see `Fields.Ordered` for their order. -/
abbrev Fields (α : Type u) := List (String × α)

namespace Fields

variable {α β : Type u}

/-- The keys ascend strictly, so that none occurs twice. -/
def Ordered (fields : Fields α) : Prop :=
  fields.Pairwise fun x y => x.1 < y.1

/-- The value under a key. -/
def get? (fields : Fields α) (key : String) : Option α :=
  fields.lookup key

/-- The keys in order. -/
def keys (fields : Fields α) : List String :=
  fields.map Prod.fst

/-- The values in key order. -/
def values (fields : Fields α) : List α :=
  fields.map Prod.snd

/-- Sets the value under a key and keeps the order. -/
def insert (key : String) (value : α) : Fields α → Fields α
  | [] => [(key, value)]
  | (k, v) :: rest =>
    if key < k then (key, value) :: (k, v) :: rest
    else if key = k then (key, value) :: rest
    else (k, v) :: insert key value rest

/-- The fields of a list of pairs; of a repeated key the last value counts. -/
def ofList (pairs : List (String × α)) : Fields α :=
  pairs.foldl (fun fields pair => insert pair.1 pair.2 fields) []

@[simp] theorem get?_nil (key : String) : get? ([] : Fields α) key = none := rfl

theorem get?_cons (k : String) (v : α) (rest : Fields α) (key : String) :
    get? ((k, v) :: rest) key = if key = k then some v else get? rest key := by
  by_cases h : key = k
  · simp [get?, h]
  · have : (key == k) = false := beq_false_of_ne h
    simp [get?, List.lookup_cons, h, this]

@[simp] theorem length_values (fields : Fields α) : (values fields).length = fields.length :=
  List.length_map _

theorem mem_values_of_get? {fields : Fields α} {key : String} {value : α}
    (h : get? fields key = some value) : value ∈ values fields := by
  induction fields with
  | nil => cases h
  | cons y rest ih =>
    obtain ⟨k, v⟩ := y
    rw [get?_cons] at h
    split at h
    · cases h
      exact List.mem_cons_self
    · exact List.mem_cons_of_mem _ (ih h)

theorem mem_insert {x : String × α} {key : String} {value : α} {fields : Fields α}
    (h : x ∈ insert key value fields) : x = (key, value) ∨ x ∈ fields := by
  induction fields with
  | nil => exact .inl (by simpa [insert] using h)
  | cons y rest ih =>
    obtain ⟨k, v⟩ := y
    unfold insert at h
    split at h
    · rcases List.mem_cons.1 h with rfl | h
      · exact .inl rfl
      · exact .inr h
    · split at h
      · rcases List.mem_cons.1 h with rfl | h
        · exact .inl rfl
        · exact .inr (List.mem_cons_of_mem _ h)
      · rcases List.mem_cons.1 h with rfl | h
        · exact .inr List.mem_cons_self
        · exact (ih h).imp_right (List.mem_cons_of_mem _)

theorem get?_insert_self (key : String) (value : α) (fields : Fields α) :
    get? (insert key value fields) key = some value := by
  induction fields with
  | nil => simp [insert, get?_cons]
  | cons y rest ih =>
    obtain ⟨k, v⟩ := y
    unfold insert
    split
    · simp [get?_cons]
    · split
      · simp [get?_cons]
      · next h => simp [get?_cons, h, ih]

theorem get?_insert_of_ne {key other : String} (h : other ≠ key) (value : α)
    (fields : Fields α) : get? (insert key value fields) other = get? fields other := by
  induction fields with
  | nil => simp [insert, get?_cons, h]
  | cons y rest ih =>
    obtain ⟨k, v⟩ := y
    unfold insert
    split
    · rw [get?_cons, if_neg h]
    · split
      · next hk => subst hk; rw [get?_cons, get?_cons, if_neg h, if_neg h]
      · rw [get?_cons, get?_cons, ih]

theorem Ordered.insert {fields : Fields α} (h : Ordered fields) (key : String) (value : α) :
    Ordered (insert key value fields) := by
  induction fields with
  | nil => simp [Fields.insert, Ordered]
  | cons y rest ih =>
    obtain ⟨k, v⟩ := y
    obtain ⟨hk, hrest⟩ := List.pairwise_cons.1 h
    unfold Fields.insert
    split
    · next hlt =>
      refine List.pairwise_cons.2 ⟨fun x hx => ?_, h⟩
      rcases List.mem_cons.1 hx with rfl | hx
      · exact hlt
      · exact String.lt_trans hlt (hk x hx)
    · split
      · next heq => subst heq; exact List.pairwise_cons.2 ⟨hk, hrest⟩
      · next hlt hne =>
        refine List.pairwise_cons.2 ⟨fun x hx => ?_, ih hrest⟩
        rcases mem_insert hx with rfl | hx
        · exact Std.lt_of_le_of_ne (String.not_lt.1 hlt) (Ne.symm hne)
        · exact hk x hx

theorem Ordered.ofList (pairs : List (String × α)) : Ordered (ofList pairs) := by
  suffices ∀ fields : Fields α, Ordered fields →
      Ordered (pairs.foldl (fun fields pair => Fields.insert pair.1 pair.2 fields) fields) from
    this [] List.Pairwise.nil
  induction pairs with
  | nil => exact fun _ h => h
  | cons pair rest ih => exact fun _ h => ih _ (h.insert pair.1 pair.2)

end Fields

end PathQuery
