import PathQuery.Host.Basic
import PathQuery.Proofs.DocumentOrder
import PathQuery.Proofs.Outcome

/-!
# Copies of hosts

A host presents a value if it answers every question about a node as the value would. The copy of
such a host is the value, whatever the type of the host is, and the limit on the depth counts exactly
the levels of the value: one that is as high as the limit is copied, and one that is higher by one is
not. Values and documents are hosts that present themselves and the values that they stand for.
-/

namespace PathQuery

open Outcome

/-! ## Heights -/

namespace Value

mutual

/-- How high a value is: one level more than the highest of its members, if it has any. -/
def height : Value → Nat
  | .array items => heightOfItems items
  | .object fields => heightOfFields fields
  | _ => 0

/-- The height of an array of some elements. -/
def heightOfItems : List Value → Nat
  | [] => 0
  | item :: rest => max (height item + 1) (heightOfItems rest)

/-- The height of an object of some fields. -/
def heightOfFields : List (String × Value) → Nat
  | [] => 0
  | (_, field) :: rest => max (height field + 1) (heightOfFields rest)

end

/-- A value, if its height is among the levels that are left. -/
def limited (limit levels : Nat) (v : Value) : Except EvalFault Value :=
  if v.height < levels then .ok v else .error (.tooDeep limit)

variable {limit levels : Nat}

theorem limited_zero (v : Value) : v.limited limit 0 = .error (.tooDeep limit) :=
  if_neg (Nat.not_lt_zero _)

theorem limited_succ (v : Value) :
    v.limited limit (levels + 1) =
      if v.height ≤ levels then .ok v else .error (.tooDeep limit) := by
  simp only [limited, Nat.lt_succ_iff]

theorem limited_of_height_eq_zero {v : Value} (h : v.height = 0) :
    v.limited limit (levels + 1) = .ok v :=
  if_pos (h ▸ Nat.zero_lt_succ levels)

/-- An array is copied if each of its elements is, with one level less. -/
theorem mapM_limited (items : List Value) :
    items.mapM (limited limit levels) =
      if heightOfItems items ≤ levels then .ok items else .error (.tooDeep limit) := by
  induction items with
  | nil => rfl
  | cons item rest ih =>
    rw [List.mapM_cons, ih, limited, heightOfItems]
    by_cases hitem : item.height < levels
    · by_cases hrest : heightOfItems rest ≤ levels
      · rw [if_pos hitem, if_pos hrest, if_pos (Nat.max_le.2 ⟨hitem, hrest⟩)]
        rfl
      · rw [if_pos hitem, if_neg hrest, if_neg fun h => hrest (Nat.max_le.1 h).2]
        rfl
    · rw [if_neg hitem, if_neg fun h => hitem (Nat.max_le.1 h).1]
      rfl

end Value

namespace Json

mutual

/-- How high a document is: one level more than the highest of its members, if it has any. -/
def height : Json → Nat
  | .array items => heightOfItems items
  | .object members => heightOfMembers members
  | _ => 0

/-- The height of an array of some elements. -/
def heightOfItems : List Json → Nat
  | [] => 0
  | item :: rest => max (height item + 1) (heightOfItems rest)

/-- The height of an object of some members. -/
def heightOfMembers : List (String × Json) → Nat
  | [] => 0
  | (_, member) :: rest => max (height member + 1) (heightOfMembers rest)

end

end Json

namespace Value

theorem height_ofNumber (j : Json) : (ofNumber j).height = 0 := by
  unfold ofNumber
  split
  · simp [height]
  · cases j.asFloat? <;> simp [height]

mutual

/-- The value of a document is as high as the document. -/
theorem height_ofJson : (j : Json) → (ofJson j).height = j.height
  | .null | .bool _ | .string _ => by simp [ofJson, height, Json.height]
  | .integer _ | .float _ => by simp [ofJson, height_ofNumber, Json.height]
  | .array items => by rw [ofJson, height, Json.height, heightOfItems_ofItems items]
  | .object members => by rw [ofJson, height, Json.height, heightOfFields_ofMembers members]

theorem heightOfItems_ofItems : (items : List Json) →
    heightOfItems (ofItems items) = Json.heightOfItems items
  | [] => rfl
  | item :: rest => by
    rw [ofItems, heightOfItems, Json.heightOfItems, height_ofJson item, heightOfItems_ofItems rest]

theorem heightOfFields_ofMembers : (members : List (String × Json)) →
    heightOfFields (ofMembers members) = Json.heightOfMembers members
  | [] => rfl
  | (key, member) :: rest => by
    rw [ofMembers, heightOfFields, Json.heightOfMembers, height_ofJson member,
      heightOfFields_ofMembers rest]

end

end Value

/-! ## Copies -/

namespace Host

variable {σ : Type u} [Host σ]

/-- A host that answers every question as a value would. -/
inductive Presents : σ → Value → Prop
  | null {host : σ} : kind host = .null → Presents host .null
  | scalar {host : σ} {v : Value} : kind host = .scalar → Host.scalar host = some v →
      v.height = 0 → Presents host v
  | sequence {host : σ} {items : List Value} : kind host = .sequence →
      length host = items.length →
      (∀ i item, items[i]? = some item → (element host i).isSome) →
      (∀ i item node, items[i]? = some item → element host i = some node → Presents node item) →
      Presents host (.array items)
  | record {host : σ} {fields : List (String × Value)} : kind host = .record →
      Fields.Ordered fields → fieldNames host = Fields.keys fields →
      (∀ name v, (name, v) ∈ fields → (field host name).isSome) →
      (∀ name v node, (name, v) ∈ fields → field host name = some node → Presents node v) →
      Presents host (.object fields)

variable {copy : σ → Except EvalFault Value} {host : σ} {limit levels : Nat}

theorem copy_zero (host : σ) (v : Value) : Host.copy limit 0 host = v.limited limit 0 := by
  rw [Host.copy, Value.limited_zero]

theorem copyElements_eq {items : List Value} (hlength : length host = items.length)
    (h : ∀ i item, items[i]? = some item →
      ∃ node, element host i = some node ∧ copy node = item.limited limit levels) :
    copyElements copy host = items.mapM (Value.limited limit levels) := by
  rw [copyElements, hlength]
  refine mapM_range_length fun i item hitem => ?_
  obtain ⟨node, hnode, hcopy⟩ := h i item hitem
  rw [hnode]
  exact hcopy

/-- Fields in key order are copied one behind the other. -/
theorem copyFields_eq {done fields : List (String × Value)}
    (hordered : Fields.Ordered (done ++ fields))
    (h : ∀ name v, (name, v) ∈ fields →
      ∃ node, field host name = some node ∧ copy node = v.limited limit levels) :
    copyFields copy host done (Fields.keys fields) =
      if Value.heightOfFields fields ≤ levels then .ok (done ++ fields)
      else .error (.tooDeep limit) := by
  induction fields generalizing done with
  | nil => simp [copyFields, Fields.keys, Value.heightOfFields]
  | cons entry rest ih =>
    obtain ⟨name, v⟩ := entry
    obtain ⟨node, hnode, hcopy⟩ := h name v List.mem_cons_self
    have hrest := @ih (done ++ [(name, v)]) (by simpa using hordered) fun name' v' hmem =>
      h name' v' (List.mem_cons_of_mem _ hmem)
    rw [Fields.keys, List.map_cons, copyFields, hnode, Value.heightOfFields]
    simp only [hcopy, Value.limited]
    by_cases hv : v.height < levels
    · have hle : max (v.height + 1) (Value.heightOfFields rest) ≤ levels ↔
          Value.heightOfFields rest ≤ levels := by omega
      rw [if_pos hv]
      show copyFields copy host (Fields.insert name v done) (Fields.keys rest) = _
      rw [hordered.insert_eq, hrest, List.append_assoc, List.singleton_append]
      simp only [hle]
    · rw [if_neg hv, if_neg fun hle => hv (Nat.max_le.1 hle).1]
      rfl

/-- A host is copied to the value that it presents, or the copy fails if that is too high. -/
theorem Presents.copy_eq {v : Value} (h : Presents host v) (levels : Nat) :
    Host.copy limit levels host = v.limited limit levels := by
  induction h generalizing levels with
  | null hkind =>
    cases levels with
    | zero => exact copy_zero _ _
    | succ levels =>
      rw [Host.copy, hkind, Value.limited_of_height_eq_zero (by simp [Value.height])]
  | scalar hkind hscalar hheight =>
    cases levels with
    | zero => exact copy_zero _ _
    | succ levels =>
      rw [Host.copy, hkind, Value.limited_of_height_eq_zero hheight]
      simp [hscalar]
  | @sequence host items hkind hlength hsome _ ih =>
    cases levels with
    | zero => exact copy_zero _ _
    | succ levels =>
      have hitems : copyElements (Host.copy limit levels) host =
          items.mapM (Value.limited limit levels) := by
        refine copyElements_eq hlength fun i item hitem => ?_
        obtain ⟨node, hnode⟩ := Option.isSome_iff_exists.1 (hsome i item hitem)
        exact ⟨node, hnode, ih i item node hitem hnode levels⟩
      rw [Host.copy, hkind, Value.limited_succ, Value.height]
      simp only [hitems, Value.mapM_limited]
      split <;> rfl
  | @record host fields hkind hordered hnames hsome _ ih =>
    cases levels with
    | zero => exact copy_zero _ _
    | succ levels =>
      have hfields : copyFields (Host.copy limit levels) host [] (Fields.keys fields) =
          if Value.heightOfFields fields ≤ levels then .ok fields else .error (.tooDeep limit) := by
        refine copyFields_eq hordered fun name v hmem => ?_
        obtain ⟨node, hnode⟩ := Option.isSome_iff_exists.1 (hsome name v hmem)
        exact ⟨node, hnode, ih name v node hmem hnode levels⟩
      rw [Host.copy, hkind, Value.limited_succ, Value.height]
      simp only [hnames, hfields]
      split <;> rfl

theorem Presents.ofHost_eq {v : Value} (h : Presents host v) (limit : Nat) :
    Value.ofHost limit host = if v.height ≤ limit then .ok v else .error (.tooDeep limit) := by
  rw [Value.ofHost, h.copy_eq, Value.limited_succ]

/-- A query on a host gives what it gives on the value that the host presents. -/
theorem Presents.evaluateHost_eq {v : Value} (h : Presents host v) {settings : Settings}
    (hheight : v.height ≤ settings.maxDepth) (query : Query) :
    query.evaluateHost settings host = query.evaluate settings v := by
  rw [Query.evaluateHost, h.ofHost_eq, if_pos hheight]
  rfl

end Host

open Host

/-- A value presents itself. -/
theorem Value.Ordered.presents {v : Value} (h : v.Ordered) : Presents v v := by
  induction h with
  | null => exact .null rfl
  | bool | integer | float | string => exact .scalar rfl rfl (by simp [height])
  | @array items _ ih =>
    refine .sequence rfl rfl (fun i item hitem => ?_) fun i item node hitem hnode => ?_
    · exact Option.isSome_iff_exists.2 ⟨item, hitem⟩
    · cases hitem.symm.trans hnode
      exact ih item (List.mem_of_getElem? hitem)
  | @object fields hordered _ ih =>
    refine .record rfl hordered rfl (fun name v hmem => ?_) fun name v node hmem hnode => ?_
    · exact Option.isSome_iff_exists.2 ⟨v, hordered.get?_of_mem hmem⟩
    · cases (hordered.get?_of_mem hmem).symm.trans hnode
      exact ih (name, v) hmem

/-- A document presents the value that it stands for. -/
theorem Json.Ordered.presents {j : Json} (h : j.Ordered) : Presents j (Value.ofJson j) := by
  induction h with
  | null => exact .null rfl
  | bool | string => exact .scalar rfl rfl (by simp [Value.ofJson, Value.height])
  | integer n => exact .scalar rfl rfl (Value.height_ofNumber (.integer n))
  | float x => exact .scalar rfl rfl (Value.height_ofNumber (.float x))
  | @array items _ ih =>
    have hitem {i : Nat} {item : Value} (h : (items.map Value.ofJson)[i]? = some item) :
        ∃ j, items[i]? = some j ∧ Value.ofJson j = item := by
      rw [List.getElem?_map] at h
      exact Option.map_eq_some_iff.1 h
    rw [Value.ofJson, Value.ofItems_eq_map]
    refine .sequence rfl (List.length_map _).symm (fun i item h => ?_) fun i item node h hnode => ?_
    · obtain ⟨j, hj, -⟩ := hitem h
      exact Option.isSome_iff_exists.2 ⟨j, hj⟩
    · obtain ⟨j, hj, rfl⟩ := hitem h
      cases hj.symm.trans hnode
      exact ih _ (List.mem_of_getElem? hnode)
  | @object members hordered _ ih =>
    have hkeys := Value.keys_ofMembers members
    rw [Value.ofJson]
    refine .record rfl hordered.ofMembers hkeys.symm (fun name v hmem => ?_)
      fun name v node hmem hnode => ?_
    · obtain ⟨j, hj, -⟩ := Value.exists_of_mem_ofMembers hmem
      exact Option.isSome_iff_exists.2 ⟨j, hordered.get?_of_mem hj⟩
    · obtain ⟨j, hj, rfl⟩ := Value.exists_of_mem_ofMembers hmem
      cases (hordered.get?_of_mem hj).symm.trans hnode
      exact ih _ hj

/-- The copy of a value or of a document is what it stands for if that is no higher than the limit,
and fails otherwise; the limit itself is still allowed. A query on such a host therefore gives what
it gives on the value. -/
theorem Value.ofHost_eq_if_height_le :
    (∀ (limit : Nat) (v : Value), v.Ordered →
      ofHost limit v = if v.height ≤ limit then .ok v else .error (.tooDeep limit)) ∧
    (∀ (limit : Nat) (j : Json), j.Ordered →
      ofHost limit j = if j.height ≤ limit then .ok (ofJson j) else .error (.tooDeep limit)) ∧
    (∀ (settings : Settings) (query : Query) (v : Value), v.Ordered →
      v.height ≤ settings.maxDepth →
      query.evaluateHost settings v = query.evaluate settings v) ∧
    ∀ (settings : Settings) (query : Query) (j : Json), j.Ordered →
      j.height ≤ settings.maxDepth →
      query.evaluateHost settings j = query.evaluate settings (ofJson j) := by
  refine ⟨fun limit v hv => hv.presents.ofHost_eq limit, fun limit j hj => ?_,
    fun settings query v hv hheight => hv.presents.evaluateHost_eq hheight query,
    fun settings query j hj hheight => ?_⟩
  · rw [hj.presents.ofHost_eq, height_ofJson]
  · exact hj.presents.evaluateHost_eq (height_ofJson j ▸ hheight) query

/-- The limit is exact: an object of height 2 is copied two levels deep but not one, be it a value or
a document. -/
theorem Value.ofHost_eq_if_height_le_at_limit :
    ofHost 2 (Value.object [("a", .array [.null]), ("b", .array [])]) =
        .ok (.object [("a", .array [.null]), ("b", .array [])]) ∧
      ofHost 1 (Value.object [("a", .array [.null]), ("b", .array [])]) = .error (.tooDeep 1) ∧
      ofHost 2 (Json.object [("a", .array [.integer 7])]) =
        .ok (.object [("a", .array [.integer 7])]) ∧
      ofHost 1 (Json.object [("a", .array [.integer 7])]) = .error (.tooDeep 1) ∧
      Query.evaluateHost .standard [.root, .key "a"]
          (Value.object [("a", .array [.null]), ("b", .array [])]) = .ok (.array [.null]) ∧
      Query.evaluateHost .standard [.root, .key "a"] (Json.object [("a", .array [.integer 7])]) =
        .ok (.array [.integer 7]) := by
  have hv : (Value.object [("a", .array [.null]), ("b", .array [])]).Ordered :=
    .object (List.pairwise_pair.2 (by decide)) (by simp [Ordered.array, Ordered.null])
  have hj : (Json.object [("a", .array [.integer 7])]).Ordered :=
    .object (List.pairwise_singleton _ _) (by simp [Json.Ordered.array, Json.Ordered.integer])
  obtain ⟨hvalue, hjson, hquery, hqueryJson⟩ := ofHost_eq_if_height_le
  refine ⟨(hvalue 2 _ hv).trans rfl, (hvalue 1 _ hv).trans rfl, (hjson 2 _ hj).trans ?_,
    (hjson 1 _ hj).trans ?_, (hquery .standard _ _ hv (by decide)).trans ?_,
    (hqueryJson .standard _ _ hj (by decide)).trans ?_⟩
  all_goals rfl

end PathQuery
