import PathQuery.Proofs.Descent
import PathQuery.Proofs.JsonFacts

/-!
# Values that went through a document

A document has no floats but finite ones. A value that is written as a document and read again comes
back with null in place of each float that is infinite or no number, and is the same everywhere else:
integers do not become floats nor whole floats integers, and elements and fields stand where they did.
-/

namespace PathQuery.Value

mutual

/-- A value with null in place of every float that is not finite. -/
def finite : Value → Value
  | .null => .null
  | .bool b => .bool b
  | .integer n => .integer n
  | .float x => if x.isFinite then .float x else .null
  | .string s => .string s
  | .array items => .array (finiteItems items)
  | .object fields => .object (finiteFields fields)

/-- The elements of an array with null in place of every float that is not finite. -/
def finiteItems : List Value → List Value
  | [] => []
  | item :: rest => finite item :: finiteItems rest

/-- The fields of an object with null in place of every float that is not finite. -/
def finiteFields : List (String × Value) → List (String × Value)
  | [] => []
  | (key, field) :: rest => (key, finite field) :: finiteFields rest

end

theorem finiteItems_eq_map (items : List Value) : finiteItems items = items.map finite := by
  induction items with
  | nil => rfl
  | cons item rest ih => rw [finiteItems, ih, List.map_cons]

theorem finiteFields_eq_map (fields : List (String × Value)) :
    finiteFields fields = fields.map fun field => (field.1, finite field.2) := by
  induction fields with
  | nil => rfl
  | cons field rest ih => rw [finiteFields, ih, List.map_cons]

theorem toMembers_eq_map (fields : List (String × Value)) :
    toMembers fields = fields.map fun field => (field.1, toJson field.2) := by
  induction fields with
  | nil => rfl
  | cons field rest ih => rw [toMembers, ih, List.map_cons]

theorem toItems_eq_map (items : List Value) : toItems items = items.map toJson := by
  induction items with
  | nil => rfl
  | cons item rest ih => rw [toItems, ih, List.map_cons]

/-! ## There and back -/

mutual

theorem ofJson_toJson : ∀ v : Value, ofJson v.toJson = v.finite
  | .null | .bool _ | .string _ => rfl
  | .integer n => by rw [toJson, ofJson_ofInt64, finite]
  | .float x => by
    rw [toJson, finite]
    by_cases hx : x.isFinite = true
    · obtain ⟨j, hj⟩ := Json.exists_ofFloat? hx
      rw [if_pos hx, hj]
      exact ofJson_of_ofFloat? hj
    · rw [if_neg hx, Json.ofFloat?_eq_none hx]
      rfl
  | .array items => by rw [toJson, ofJson, ofItems_toItems items, finite]
  | .object fields => by rw [toJson, ofJson, ofMembers_toMembers fields, finite]

theorem ofItems_toItems : ∀ items : List Value, ofItems (toItems items) = finiteItems items
  | [] => rfl
  | item :: rest => by rw [toItems, ofItems, ofJson_toJson item, ofItems_toItems rest, finiteItems]

theorem ofMembers_toMembers : ∀ fields : List (String × Value),
    ofMembers (toMembers fields) = finiteFields fields
  | [] => rfl
  | (key, field) :: rest => by
    rw [toMembers, ofMembers, ofJson_toJson field, ofMembers_toMembers rest, finiteFields]

end

mutual

/-- What comes back is written as the same document. -/
theorem toJson_finite : ∀ v : Value, v.finite.toJson = v.toJson
  | .null | .bool _ | .integer _ | .string _ => rfl
  | .float x => by
    rw [finite]
    by_cases hx : x.isFinite = true
    · rw [if_pos hx]
    · rw [if_neg hx, toJson, toJson, Json.ofFloat?_eq_none hx]
      rfl
  | .array items => by rw [finite, toJson, toItems_finiteItems items, toJson]
  | .object fields => by rw [finite, toJson, toMembers_finiteFields fields, toJson]

theorem toItems_finiteItems : ∀ items : List Value, toItems (finiteItems items) = toItems items
  | [] => rfl
  | item :: rest => by
    rw [finiteItems, toItems, toJson_finite item, toItems_finiteItems rest, toItems]

theorem toMembers_finiteFields : ∀ fields : List (String × Value),
    toMembers (finiteFields fields) = toMembers fields
  | [] => rfl
  | (key, field) :: rest => by
    rw [finiteFields, toMembers, toJson_finite field, toMembers_finiteFields rest, toMembers]

end

/-! ## What stays the same -/

theorem children_finite (v : Value) : v.finite.children = v.children.map finite := by
  cases v with
  | null | bool | integer | string => rfl
  | float x =>
    rw [finite]
    split <;> rfl
  | array items =>
    rw [finite]
    exact finiteItems_eq_map items
  | object fields =>
    rw [finite, children, children, finiteFields_eq_map, Fields.values, Fields.values, List.map_map,
      List.map_map]
    rfl

/-- Everything stands where it did. -/
theorem at?_finite (place : List Nat) (v : Value) : v.finite.at? place = (v.at? place).map finite := by
  induction place generalizing v with
  | nil => rfl
  | cons i place ih =>
    rw [at?, at?, children_finite, List.getElem?_map]
    cases v.children[i]? with
    | none => rfl
    | some child => exact ih child

theorem keys_finiteFields (fields : List (String × Value)) :
    Fields.keys (finiteFields fields) = Fields.keys fields := by
  simp [Fields.keys, finiteFields_eq_map]

theorem map_eq_self_iff {α : Type} {f : α → α} {xs : List α} :
    xs.map f = xs ↔ ∀ x ∈ xs, f x = x := by
  conv_lhs => rhs; rw [← List.map_id xs]
  exact List.map_inj_left

/-- A value stays as it is just when it is no float that is lost and all values below it stay. -/
theorem finite_eq_self_iff_children (v : Value) : v.finite = v ↔
    (∀ x, v = .float x → x.isFinite = true) ∧ ∀ child ∈ v.children, child.finite = child := by
  cases v with
  | null | bool | integer | string => exact iff_of_true rfl ⟨nofun, List.forall_mem_nil _⟩
  | float x =>
    rw [finite]
    constructor
    · intro h
      split at h
      · next hx => exact ⟨fun y hy => by cases hy; exact hx, List.forall_mem_nil _⟩
      · cases h
    · intro h
      rw [if_pos (h.1 x rfl)]
  | array items =>
    rw [finite, finiteItems_eq_map, array.injEq, map_eq_self_iff]
    exact ⟨fun h => ⟨nofun, h⟩, fun h => h.2⟩
  | object fields =>
    rw [finite, finiteFields_eq_map, object.injEq, map_eq_self_iff]
    constructor
    · intro h
      refine ⟨nofun, List.forall_mem_map.2 ?_⟩
      intro field hfield
      exact congrArg Prod.snd (h field hfield)
    · intro h field hfield
      exact Prod.ext rfl (List.forall_mem_map.1 h.2 field hfield)

/-- A value comes back as it is just when no float in it is lost. -/
theorem finite_eq_self_iff (v : Value) :
    v.finite = v ↔ ∀ x, .float x ∈ v.descendants → x.isFinite = true := by
  induction v using children_induction with
  | h v ih =>
    rw [finite_eq_self_iff_children, descendants_eq]
    constructor
    · rintro ⟨hown, hbelow⟩ x hx
      rcases List.mem_cons.1 hx with hx | hx
      · exact hown x hx.symm
      · obtain ⟨child, hchild, hx⟩ := List.mem_flatMap.1 hx
        exact (ih child hchild).1 (hbelow child hchild) x hx
    · intro h
      constructor
      · rintro x rfl
        exact h x List.mem_cons_self
      · intro child hchild
        refine (ih child hchild).2 ?_
        intro x hx
        exact h x (List.mem_cons_of_mem _ (List.mem_flatMap.2 ⟨child, hchild, hx⟩))

/-! ## Key order -/

theorem Ordered.children {v : Value} (h : v.Ordered) : ∀ child ∈ v.children, child.Ordered := by
  cases h with
  | array hitems => exact hitems
  | object _ hfields => exact List.forall_mem_map.2 hfields
  | _ => exact List.forall_mem_nil _

theorem Ordered.descendants {v : Value} (h : v.Ordered) : ∀ u ∈ v.descendants, u.Ordered := by
  induction v using children_induction with
  | h v ih =>
    intro u hu
    rw [descendants_eq] at hu
    rcases List.mem_cons.1 hu with rfl | hu
    · exact h
    · obtain ⟨child, hchild, hu⟩ := List.mem_flatMap.1 hu
      exact ih child hchild (h.children child hchild) u hu

theorem Ordered.toJson {v : Value} (h : v.Ordered) : v.toJson.Ordered := by
  induction h with
  | null => exact .null
  | bool b => exact .bool b
  | integer n => exact .integer _
  | float x =>
    rw [Value.toJson]
    cases hj : Json.ofFloat? x with
    | none => exact .null
    | some j =>
      rw [Json.ofFloat?_eq_some hj]
      exact .float x
  | string s => exact .string s
  | array _ ih =>
    rw [Value.toJson, toItems_eq_map]
    exact .array (List.forall_mem_map.2 ih)
  | object hordered _ ih =>
    rw [Value.toJson, toMembers_eq_map]
    exact .object (List.pairwise_map.2 hordered) (List.forall_mem_map.2 ih)

theorem ordered_toMembers {fields : List (String × Value)} (h : Fields.Ordered fields) :
    Fields.Ordered (toMembers fields) := by
  rw [toMembers_eq_map]
  exact List.pairwise_map.2 h

/-- A value that is written as a document and read again has null in place of every float that is not
finite, and is the same everywhere else: at every place stands what stood there, and objects have the
same keys. It comes back as it was just when all floats in it are finite, and is written as the same
document in any case. If the fields of its objects are in key order, collecting them into maps on the
way makes no difference. -/
theorem ofJson_toJson_eq_finite (v : Value) :
    (ofJson v.toJson = v.finite ∧
      (∀ place, (ofJson v.toJson).at? place = (v.at? place).map finite) ∧
      ∀ place fields, v.at? place = some (.object fields) →
        ∃ fields', (ofJson v.toJson).at? place = some (.object fields') ∧
          Fields.keys fields' = Fields.keys fields) ∧
    (ofJson v.toJson = v ↔ ∀ x, .float x ∈ v.descendants → x.isFinite = true) ∧
    ((ofJson v.toJson).toJson = v.toJson ∧ toString (ofJson v.toJson) = toString v) ∧
    (v.Ordered → v.toJson.Ordered ∧ (ofJson v.toJson).Ordered ∧
      ∀ fields, .object fields ∈ v.descendants →
        Fields.ofList (toMembers fields) = toMembers fields ∧
        Fields.ofList (ofMembers (toMembers fields)) = ofMembers (toMembers fields)) := by
  have hback := ofJson_toJson v
  refine ⟨⟨hback, ?_, ?_⟩, ?_, ⟨?_, ?_⟩, ?_⟩
  · intro place
    rw [hback, at?_finite]
  · intro place fields hplace
    refine ⟨finiteFields fields, ?_, keys_finiteFields fields⟩
    rw [hback, at?_finite, hplace, Option.map_some, finite]
  · rw [hback, finite_eq_self_iff]
  · rw [hback, toJson_finite]
  · show String.ofList (ofJson v.toJson).text = String.ofList v.text
    rw [text, hback, toJson_finite, text]
  · intro h
    refine ⟨h.toJson, h.toJson.ofJson, ?_⟩
    intro fields hfields
    cases h.descendants _ hfields with
    | object hordered _ =>
      have hmembers := ordered_toMembers hordered
      exact ⟨hmembers.ofList_eq, hmembers.ofMembers.ofList_eq⟩

/-- Two floats of three are lost. The least integer stays one, and minus zero stays a float. -/
theorem ofJson_toJson_eq_finite_of_object :
    let lost : Value := .array [.float (0 / 0), .integer (-9223372036854775808), .float (-0.0)]
    let v : Value := .object [("a", lost), ("b", .float (1 / 0))]
    let back : Value := .object
      [("a", .array [.null, .integer (-9223372036854775808), .float (-0.0)]), ("b", .null)]
    v.Ordered ∧ ofJson v.toJson = back ∧ toString back = toString v ∧
    (∃ fields', (ofJson v.toJson).at? [] = some (.object fields') ∧
      Fields.keys fields' = ["a", "b"]) ∧
    Fields.ofList (toMembers [("a", lost), ("b", .float (1 / 0))]) =
      toMembers [("a", lost), ("b", .float (1 / 0))] := by
  intro lost v back
  have hordered : v.Ordered := by
    have hlost : lost.Ordered := .array (by simp [Ordered.integer, Ordered.float])
    refine .object (List.pairwise_pair.2 (by decide)) ?_
    simp [hlost, Ordered.float]
  obtain ⟨⟨hback, -, hkeys⟩, -, ⟨-, htext⟩, hmaps⟩ := ofJson_toJson_eq_finite v
  have hfinite : v.finite = back := by
    have hnan : (0 / 0 : Float).isFinite = false := by decide
    have hinf : (1 / 0 : Float).isFinite = false := by decide
    have hzero : (-0.0 : Float).isFinite = true := by decide
    simp [v, lost, back, finite, finiteItems, finiteFields, hnan, hinf, hzero]
  rw [hfinite] at hback
  rw [hback] at htext
  refine ⟨hordered, hback, htext, hkeys [] _ rfl, ?_⟩
  exact ((hmaps hordered).2.2 _ List.mem_cons_self).1

end PathQuery.Value
