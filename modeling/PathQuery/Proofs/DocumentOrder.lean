import PathQuery.Json.Reader
import PathQuery.Value.Document

/-!
# Documents in key order

The fields of an object are kept in key order, and a list of fields is taken to be in that order
wherever a map is meant. `Value.Ordered` and `Json.Ordered` say this of every object in a tree. A
document that is read from a text is in key order, and so is the value that it stands for.
-/

namespace PathQuery

namespace Fields

variable {α : Type u} {fields : Fields α}

/-- A key behind all others is added at the end. -/
theorem insert_of_forall_lt {key : String} (h : ∀ field ∈ fields, field.1 < key) (value : α) :
    insert key value fields = fields ++ [(key, value)] := by
  induction fields with
  | nil => rfl
  | cons field rest ih =>
    obtain ⟨k, v⟩ := field
    have hk : k < key := h (k, v) List.mem_cons_self
    have hrest := ih fun field hfield => h field (List.mem_cons_of_mem _ hfield)
    rw [insert, if_neg (String.lt_asymm hk), if_neg (String.ne_of_lt hk).symm, hrest,
      List.cons_append]

/-- In key order, the next field is added at the end of those before it. -/
theorem Ordered.insert_eq {front rest : Fields α} {key : String} {value : α}
    (h : Ordered (front ++ (key, value) :: rest)) :
    Fields.insert key value front = front ++ [(key, value)] := by
  refine insert_of_forall_lt ?_ value
  intro field hfield
  exact (List.pairwise_append.1 h).2.2 field hfield (key, value) List.mem_cons_self

/-- Collecting pairs that are in key order already leaves them as they are. -/
theorem Ordered.ofList_eq (h : Ordered fields) : Fields.ofList fields = fields := by
  suffices ∀ front : Fields α, Ordered (front ++ fields) →
      fields.foldl (fun fields pair => Fields.insert pair.1 pair.2 fields) front = front ++ fields from
    this [] h
  clear h
  induction fields with
  | nil => exact fun front _ => (List.append_nil front).symm
  | cons field rest ih =>
    intro front h
    rw [List.foldl_cons, h.insert_eq, ih _ (by rwa [List.append_assoc]), List.append_assoc]
    rfl

/-- In key order, a field is found under its key. -/
theorem Ordered.get?_of_mem (h : Ordered fields) {key : String} {value : α}
    (hmem : (key, value) ∈ fields) : get? fields key = some value := by
  induction fields with
  | nil => cases hmem
  | cons field rest ih =>
    obtain ⟨k, v⟩ := field
    obtain ⟨hk, hrest⟩ := List.pairwise_cons.1 h
    rw [get?_cons]
    rcases List.mem_cons.1 hmem with he | hmem
    · cases he
      exact if_pos rfl
    · have hlt : k < key := hk (key, value) hmem
      rw [if_neg (String.ne_of_lt hlt).symm]
      exact ih hrest hmem

/-- Nothing is in the fields of a list of pairs that is not in the list. -/
theorem mem_of_mem_ofList {pairs : List (String × α)} {field : String × α}
    (h : field ∈ ofList pairs) : field ∈ pairs := by
  suffices ∀ fields : Fields α,
      field ∈ pairs.foldl (fun fields pair => insert pair.1 pair.2 fields) fields →
        field ∈ fields ∨ field ∈ pairs from
    (this [] h).resolve_left List.not_mem_nil
  clear h
  induction pairs with
  | nil => exact fun _ h => .inl h
  | cons pair rest ih =>
    intro fields h
    rcases ih _ h with h | h
    · rcases mem_insert h with rfl | h
      · exact .inr List.mem_cons_self
      · exact .inl h
    · exact .inr (List.mem_cons_of_mem _ h)

end Fields

/-- A value in which the fields of every object are in key order, as a map keeps them. -/
inductive Value.Ordered : Value → Prop
  | null : Ordered .null
  | bool (b : Bool) : Ordered (.bool b)
  | integer (n : Int64) : Ordered (.integer n)
  | float (x : Float) : Ordered (.float x)
  | string (s : String) : Ordered (.string s)
  | array {items : List Value} : (∀ item ∈ items, Ordered item) → Ordered (.array items)
  | object {fields : List (String × Value)} : Fields.Ordered fields →
      (∀ field ∈ fields, Ordered field.2) → Ordered (.object fields)

/-- A document in which the members of every object are in key order, as a map keeps them. -/
inductive Json.Ordered : Json → Prop
  | null : Ordered .null
  | bool (b : Bool) : Ordered (.bool b)
  | integer (n : Int) : Ordered (.integer n)
  | float (x : Float) : Ordered (.float x)
  | string (s : String) : Ordered (.string s)
  | array {items : List Json} : (∀ item ∈ items, Ordered item) → Ordered (.array items)
  | object {members : List (String × Json)} : Fields.Ordered members →
      (∀ member ∈ members, Ordered member.2) → Ordered (.object members)

namespace Value

theorem ofItems_eq_map (items : List Json) : ofItems items = items.map ofJson := by
  induction items with
  | nil => rfl
  | cons item rest ih => rw [ofItems, ih, List.map_cons]

theorem ofMembers_eq_map (members : List (String × Json)) :
    ofMembers members = members.map fun member => (member.1, ofJson member.2) := by
  induction members with
  | nil => rfl
  | cons member rest ih => rw [ofMembers, ih, List.map_cons]

/-- A member of the value of a document stands for a member of the document. -/
theorem exists_of_mem_ofMembers {members : List (String × Json)} {name : String} {v : Value}
    (h : (name, v) ∈ ofMembers members) : ∃ j, (name, j) ∈ members ∧ ofJson j = v := by
  rw [ofMembers_eq_map] at h
  obtain ⟨⟨name', j⟩, hmember, he⟩ := List.mem_map.1 h
  cases he
  exact ⟨j, hmember, rfl⟩

theorem keys_ofMembers (members : List (String × Json)) :
    Fields.keys (ofMembers members) = Fields.keys members := by
  simp [Fields.keys, ofMembers_eq_map]

theorem ordered_ofNumber (j : Json) : (ofNumber j).Ordered := by
  unfold ofNumber
  split
  · exact .integer _
  · cases j.asFloat? with
    | none => exact .null
    | some x => exact .float x

end Value

theorem Fields.Ordered.ofMembers {members : List (String × Json)} (h : Fields.Ordered members) :
    Fields.Ordered (Value.ofMembers members) := by
  rw [Value.ofMembers_eq_map]
  exact List.pairwise_map.2 h

/-- The value of a document keeps the order of its members. -/
theorem Json.Ordered.ofJson {j : Json} (h : j.Ordered) : (Value.ofJson j).Ordered := by
  induction h with
  | null => exact .null
  | bool b => exact .bool b
  | integer n => exact Value.ordered_ofNumber (.integer n)
  | float x => exact Value.ordered_ofNumber (.float x)
  | string s => exact .string s
  | array _ ih =>
    rw [Value.ofJson, Value.ofItems_eq_map]
    exact .array (List.forall_mem_map.2 ih)
  | object hordered _ ih =>
    rw [Value.ofJson]
    refine .object hordered.ofMembers fun field hfield => ?_
    obtain ⟨j, hj, he⟩ := Value.exists_of_mem_ofMembers hfield
    exact he ▸ ih _ hj

/-! ## Reading -/

namespace Json

theorem ordered_of_finite {negative : Bool} {digits : List Char} {exponent : Int} {j : Json}
    (h : finite? negative digits exponent = some j) : j.Ordered := by
  simp only [finite?, Option.ite_none_right_eq_some, Option.some.injEq] at h
  rw [← h.2]
  exact .float _

theorem ordered_of_whole {negative : Bool} {digits : List Char} {j : Json}
    (h : whole? negative digits = some j) : j.Ordered := by
  simp only [whole?] at h
  generalize (if negative = true then -_ else _ : Int) = n at h
  split at h
  · cases h
    exact .float _
  · split at h
    · cases h
      exact .integer _
    · exact ordered_of_finite h

theorem ordered_of_readNumber {negative : Bool} {cs rest : List Char} {j : Json}
    (h : readNumber negative cs = some (j, rest)) : j.Ordered := by
  simp only [readNumber] at h
  split at h
  · cases h
  · obtain ⟨⟨tail, after⟩, -, h⟩ := Option.bind_eq_some_iff.1 h
    cases tail with
    | none =>
      obtain ⟨j', hj, he⟩ := Option.map_eq_some_iff.1 h
      cases he
      exact ordered_of_whole hj
    | some tail =>
      obtain ⟨j', hj, he⟩ := Option.map_eq_some_iff.1 h
      cases he
      exact ordered_of_finite hj

/-- The induction is on the fuel, with the readers of elements and members along. -/
theorem ordered_of_read (fuel : Nat) :
    (∀ {nesting : Nat} {cs rest : List Char} {j : Json},
      readValue fuel nesting cs = some (j, rest) → j.Ordered) ∧
    (∀ {nesting : Nat} {cs rest : List Char} {items : List Json},
      readItems fuel nesting cs = some (items, rest) → ∀ item ∈ items, item.Ordered) ∧
    ∀ {nesting : Nat} {cs rest : List Char} {members : List (String × Json)},
      readMembers fuel nesting cs = some (members, rest) → ∀ member ∈ members, member.2.Ordered := by
  induction fuel with
  | zero => refine ⟨fun h => ?_, fun h => ?_, fun h => ?_⟩ <;> cases h
  | succ fuel ih =>
    obtain ⟨hvalue, hitems, hmembers⟩ := ih
    refine ⟨fun h => ?_, fun h => ?_, fun h => ?_⟩
    · rw [readValue.eq_def] at h
      simp only at h
      split at h
      · cases h; exact .null
      · cases h; exact .bool true
      · cases h; exact .bool false
      · obtain ⟨⟨s, after⟩, -, he⟩ := Option.map_eq_some_iff.1 h
        cases he
        exact .string _
      · exact ordered_of_readNumber h
      · split at h
        · cases h
        · split at h
          · cases h; exact .array (List.forall_mem_nil _)
          · obtain ⟨⟨items, after⟩, hread, he⟩ := Option.map_eq_some_iff.1 h
            cases he
            exact .array (hitems hread)
      · split at h
        · cases h
        · split at h
          · cases h; exact .object .nil (List.forall_mem_nil _)
          · obtain ⟨⟨members, after⟩, hread, he⟩ := Option.map_eq_some_iff.1 h
            cases he
            exact .object (Fields.Ordered.ofList members) fun member hmember =>
              hmembers hread member (Fields.mem_of_mem_ofList hmember)
      · exact ordered_of_readNumber h
    · rw [readItems] at h
      obtain ⟨⟨item, after⟩, hitem, h⟩ := Option.bind_eq_some_iff.1 h
      simp only at h
      split at h
      · obtain ⟨⟨items, after'⟩, hread, he⟩ := Option.map_eq_some_iff.1 h
        cases he
        exact List.forall_mem_cons.2 ⟨hvalue hitem, hitems hread⟩
      · cases h
        exact List.forall_mem_singleton.2 (hvalue hitem)
      · cases h
    · rw [readMembers] at h
      split at h
      · obtain ⟨⟨key, after⟩, -, h⟩ := Option.bind_eq_some_iff.1 h
        simp only at h
        split at h
        · obtain ⟨⟨value, after'⟩, hread, h⟩ := Option.bind_eq_some_iff.1 h
          simp only at h
          split at h
          · obtain ⟨⟨members, after''⟩, hrest, he⟩ := Option.map_eq_some_iff.1 h
            cases he
            exact List.forall_mem_cons.2 ⟨hvalue hread, hmembers hrest⟩
          · cases h
            exact List.forall_mem_singleton.2 (hvalue hread)
          · cases h
        · cases h
      · cases h

theorem exists_readValue_of_ofChars? {cs : List Char} {j : Json} (h : ofChars? cs = some j) :
    ∃ rest, readValue (2 * cs.length + 2) maxNesting cs = some (j, rest) := by
  obtain ⟨⟨j', rest⟩, hread, h⟩ := Option.bind_eq_some_iff.1 h
  obtain ⟨-, he⟩ := Option.ite_none_right_eq_some.1 h
  cases he
  exact ⟨rest, hread⟩

/-- A document that is read from a text is in key order. -/
theorem ordered_of_ofChars? {cs : List Char} {j : Json} (h : ofChars? cs = some j) : j.Ordered := by
  obtain ⟨rest, hread⟩ := exists_readValue_of_ofChars? h
  exact (ordered_of_read _).1 hread

end Json

end PathQuery
