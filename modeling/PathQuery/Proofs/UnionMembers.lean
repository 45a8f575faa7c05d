import Mathlib.Data.List.Forall2
import PathQuery.Proofs.WalkStep

/-!
# Members of a union

A union of an array or an object is what its members find alone: it succeeds just when each of them
does, and gives what they find in their order. The members are resolved before any is looked up, so
that a union may fail with another fault than its first failing member; of an object, all missing keys
are reported together.
-/

namespace PathQuery

open Outcome

/-- The segment that a member of a union is alone. -/
def Member.segment : Member → Segment
  | .index n => .index n
  | .key name => .key name
  | .computed expr => .script expr

namespace Outcome

variable {ε α β : Type}

theorem mapM_eq_ok_iff_forall₂ {f : α → Except ε β} {xs : List α} {ys : List β} :
    xs.mapM f = .ok ys ↔ List.Forall₂ (fun x y => f x = .ok y) xs ys := by
  induction xs generalizing ys with
  | nil => rw [mapM_nil_eq_ok, List.forall₂_nil_left_iff]
  | cons x xs ih =>
    rw [mapM_cons_eq_ok, List.forall₂_cons_left_iff]
    constructor
    · rintro ⟨y, zs, hy, hzs, rfl⟩
      exact ⟨y, zs, hy, ih.1 hzs, rfl⟩
    · rintro ⟨y, zs, hy, hzs, rfl⟩
      exact ⟨y, zs, hy, ih.2 hzs, rfl⟩

end Outcome

namespace Walk

variable (w : Walk) {v : Value}

/-- The key or index that a member of a union stands for. -/
def choice (w : Walk) (v : Value) : Member → Except EvalFault Value.Choice
  | .index n => .ok (.index n)
  | .key name => .ok (.key name)
  | .computed expr => do (← inSlot .unionMember (w.evaluate expr v)).toChoice

theorem choices_eq_mapM (v : Value) (members : List Member) :
    w.choices v members = members.mapM (w.choice v) := by
  induction members with
  | nil => rw [choices]; rfl
  | cons member members ih =>
    rw [List.mapM_cons, ← ih]
    cases member with
    | index n => rw [choices]; rfl
    | key name => rw [choices]; rfl
    | computed expr =>
      rw [choices, choice]
      simp only [bind_assoc]

theorem apply_script (expr : Expr) (v : Value) :
    w.apply [.script expr] v = (do w.subscript v (← (← w.evaluate expr v).toChoice)) := by
  rw [apply_cons, find]
  simp only [bind_assoc, pure_bind]
  refine bind_congr fun result => bind_congr fun choice => ?_
  cases w.subscript v choice <;> rfl

/-- A member alone is resolved and then looked up. Only the fault of its expression is reported in
another way. -/
theorem apply_segment_eq_ok {member : Member} {x : Value} :
    w.apply [member.segment] v = .ok x ↔ (w.choice v member >>= w.subscript v) = .ok x := by
  cases member with
  | index n =>
    rw [Member.segment, apply_cons, find, choice]
    show _ ↔ v.element w.indexObjects n = .ok x
    cases v.element w.indexObjects n <;> rfl
  | key name =>
    rw [Member.segment, apply_cons, find, choice]
    show _ ↔ v.field name = .ok x
    cases v.field name <;> rfl
  | computed expr =>
    rw [Member.segment, apply_script, choice, bind_assoc]
    cases w.evaluate expr v with
    | error fault =>
      constructor
      · intro h; cases h
      · intro h; cases h
    | ok result => rfl

end Walk

namespace Value

variable {w : Walk}

theorem chooseItem_eq_ok {items : List Value} {choice : Choice} {x : Value} :
    chooseItem items choice = .ok x ↔ w.subscript (.array items) choice = .ok x := by
  cases choice with
  | index n => rfl
  | key name => exact ⟨nofun, nofun⟩

theorem exists_value_of_position {fields : List (String × Value)} {n : Int64} {place : Nat}
    (h : position n fields.length = .ok place) : ∃ x, (Fields.values fields)[place]? = some x :=
  ⟨_, List.getElem?_eq_getElem (Fields.length_values fields ▸ position_lt h)⟩

theorem chooseFields_key_eq_ok {indexObjects : Bool} {fields : List (String × Value)} {name : String}
    {choices : List Choice} {found : List Value} :
    chooseFields indexObjects fields (.key name :: choices) = .ok (found, []) ↔
      ∃ x rest, (object fields).field name = .ok x ∧
        chooseFields indexObjects fields choices = .ok (rest, []) ∧ found = x :: rest := by
  rw [chooseFields, field]
  constructor
  · intro h
    obtain ⟨⟨rest, missing⟩, hrest, h⟩ := bind_eq_ok.1 h
    cases hname : Fields.get? fields name with
    | none =>
      rw [hname] at h
      cases h
    | some x =>
      rw [hname] at h
      cases h
      exact ⟨x, rest, rfl, hrest, rfl⟩
  · rintro ⟨x, rest, hx, hrest, rfl⟩
    refine bind_eq_ok.2 ⟨(rest, []), hrest, ?_⟩
    cases hname : Fields.get? fields name with
    | none =>
      rw [hname] at hx
      cases hx
    | some y =>
      rw [hname] at hx
      cases hx
      rfl

theorem chooseFields_index_eq_ok {indexObjects : Bool} {fields : List (String × Value)} {n : Int64}
    {choices : List Choice} {found : List Value} :
    chooseFields indexObjects fields (.index n :: choices) = .ok (found, []) ↔
      ∃ x rest, (object fields).element indexObjects n = .ok x ∧
        chooseFields indexObjects fields choices = .ok (rest, []) ∧ found = x :: rest := by
  rw [chooseFields, element]
  split
  · constructor
    · intro h
      obtain ⟨place, hplace, h⟩ := bind_eq_ok.1 h
      obtain ⟨⟨rest, missing⟩, hrest, h⟩ := bind_eq_ok.1 h
      obtain ⟨x, hx⟩ := exists_value_of_position hplace
      rw [hx] at h
      cases h
      exact ⟨x, rest, bind_eq_ok.2 ⟨place, hplace, by rw [hx]; rfl⟩, hrest, rfl⟩
    · rintro ⟨x, rest, hx, hrest, rfl⟩
      obtain ⟨place, hplace, hx⟩ := bind_eq_ok.1 hx
      obtain ⟨y, hy⟩ := exists_value_of_position hplace
      rw [hy] at hx
      cases hx
      exact bind_eq_ok.2 ⟨place, hplace, bind_eq_ok.2 ⟨(rest, []), hrest, by rw [hy]; rfl⟩⟩
  · exact ⟨nofun, nofun⟩

/-- Of an object, members find something alone just when they choose something together and no key is
missing. -/
theorem chooseFields_eq_ok {fields : List (String × Value)} {choices : List Choice}
    {found : List Value} :
    chooseFields w.indexObjects fields choices = .ok (found, []) ↔
      choices.mapM (w.subscript (.object fields)) = .ok found := by
  induction choices generalizing found with
  | nil =>
    rw [chooseFields, mapM_nil_eq_ok]
    constructor
    · intro h
      cases h
      rfl
    · rintro rfl
      rfl
  | cons choice choices ih =>
    cases choice with
    | key name =>
      rw [chooseFields_key_eq_ok, mapM_cons_eq_ok]
      simp only [ih]
      rfl
    | index n =>
      rw [chooseFields_index_eq_ok, mapM_cons_eq_ok]
      simp only [ih]
      rfl

/-- Members choose from an array or an object what each of them finds in it alone. -/
theorem choose_eq_ok {v : Value} (hv : v.kind = .array ∨ v.kind = .object) {choices : List Choice}
    {found : List Value} :
    v.choose w.indexObjects choices = .ok found ↔ choices.mapM (w.subscript v) = .ok found := by
  cases v with
  | array items =>
    rw [choose, mapM_eq_ok_iff_forall₂, mapM_eq_ok_iff_forall₂]
    simp only [@chooseItem_eq_ok w]
  | object fields =>
    rw [← chooseFields_eq_ok, choose]
    constructor
    · intro h
      obtain ⟨⟨found', missing⟩, hchoose, h⟩ := bind_eq_ok.1 h
      dsimp only at h
      split at h
      · next hmissing =>
        cases h
        rw [hchoose, List.isEmpty_iff.1 hmissing]
      · cases h
    · intro h
      rw [h]
      rfl
  | _ => rcases hv with hv | hv <;> cases hv

/-- The keys among some that an object lacks. -/
def missingKeys (fields : List (String × Value)) (names : List String) : List String :=
  names.filter fun name => (Fields.get? fields name).isNone

theorem chooseFields_keys (indexObjects : Bool) (fields : List (String × Value))
    (names : List String) :
    chooseFields indexObjects fields (names.map .key) =
      .ok (names.filterMap (Fields.get? fields), missingKeys fields names) := by
  induction names with
  | nil => rfl
  | cons name names ih =>
    rw [List.map_cons, chooseFields, ih]
    cases hname : Fields.get? fields name with
    | none =>
      rw [List.filterMap_cons_none hname, missingKeys, missingKeys,
        List.filter_cons_of_pos (by rw [hname]; rfl)]
      rfl
    | some x =>
      rw [List.filterMap_cons_some hname, missingKeys, missingKeys,
        List.filter_cons_of_neg (by rw [hname]; exact Bool.false_ne_true)]
      rfl

theorem choose_keys (indexObjects : Bool) (fields : List (String × Value)) (names : List String) :
    (object fields).choose indexObjects (names.map .key) =
      if missingKeys fields names = [] then .ok (names.filterMap (Fields.get? fields))
      else .error (.keysNotFound (missingKeys fields names)) := by
  rw [choose, chooseFields_keys]
  cases missingKeys fields names <;> rfl

end Value

namespace Walk

variable (w : Walk) {v : Value}

/-- A member of a union that is or evaluates to a key. -/
inductive Names (v : Value) : Member → String → Prop
  | key (name : String) : Names v (.key name) name
  | computed {expr : Expr} {name : String} : w.evaluate expr v = .ok (.string name) →
      Names v (.computed expr) name

theorem choices_of_names {members : List Member} {names : List String}
    (h : List.Forall₂ (w.Names v) members names) : w.choices v members = .ok (names.map .key) := by
  rw [choices_eq_mapM, mapM_eq_ok_iff_forall₂, List.forall₂_map_right_iff]
  refine h.imp fun member name hname => ?_
  cases hname with
  | key => rfl
  | computed heval =>
    rw [choice, heval]
    rfl

theorem apply_union_eq (members : List Member) (v : Value) :
    w.apply [.union members] v =
      (w.choices v members >>= v.choose w.indexObjects).map Value.array := by
  rw [apply_cons, find]
  simp only [bind_assoc, pure_bind]
  cases w.choices v members with
  | error fault => rfl
  | ok choices =>
    show (v.choose w.indexObjects choices >>= fun items => .ok (.array items)) =
      (v.choose w.indexObjects choices).map Value.array
    cases v.choose w.indexObjects choices <;> rfl

theorem apply_union_eq_ok {members : List Member} (hv : v.kind = .array ∨ v.kind = .object)
    {out : Value} : w.apply [.union members] v = .ok out ↔ ∃ items, out = .array items ∧
      List.Forall₂ (fun member x => w.apply [member.segment] v = .ok x) members items := by
  have hchosen (items : List Value) : (w.choices v members >>= v.choose w.indexObjects) = .ok items ↔
      List.Forall₂ (fun member x => w.apply [member.segment] v = .ok x) members items := by
    rw [choices_eq_mapM, bind_eq_ok]
    simp only [@Value.choose_eq_ok w _ hv, apply_segment_eq_ok]
    rw [← mapM_eq_ok_iff_forall₂, mapM_bind_eq_ok]
  rw [apply_union_eq, map_eq_ok]
  constructor
  · rintro ⟨items, hitems, rfl⟩
    exact ⟨items, rfl, (hchosen items).1 hitems⟩
  · rintro ⟨items, rfl, hitems⟩
    exact ⟨items, (hchosen items).2 hitems, rfl⟩

/-- A union of an array or an object finds what its members find one by one: it succeeds just when each
of them does, and then gives the array of what they find in their order. If all members stand for keys
of an object, it fails just when it lacks some, and reports these in their order. -/
theorem apply_union (members : List Member) (hv : v.kind = .array ∨ v.kind = .object) :
    ((∃ out, w.apply [.union members] v = .ok out) ↔
      ∀ member ∈ members, ∃ x, w.apply [member.segment] v = .ok x) ∧
    (∀ out, w.apply [.union members] v = .ok out ↔ ∃ items, out = .array items ∧
      List.Forall₂ (fun member x => w.apply [member.segment] v = .ok x) members items) ∧
    ∀ fields names, v = .object fields → List.Forall₂ (w.Names v) members names →
      ∀ fault, w.apply [.union members] v = .error fault ↔
        Value.missingKeys fields names ≠ [] ∧
          fault = .keysNotFound (Value.missingKeys fields names) := by
  refine ⟨?_, fun out => w.apply_union_eq_ok hv, ?_⟩
  · rw [← exists_mapM_eq_ok]
    constructor
    · rintro ⟨out, hout⟩
      obtain ⟨items, -, hitems⟩ := (w.apply_union_eq_ok hv).1 hout
      exact ⟨items, mapM_eq_ok_iff_forall₂.2 hitems⟩
    · rintro ⟨items, hitems⟩
      exact ⟨_, (w.apply_union_eq_ok hv).2 ⟨items, rfl, mapM_eq_ok_iff_forall₂.1 hitems⟩⟩
  · rintro fields names rfl hnames fault
    rw [apply_union_eq, w.choices_of_names hnames]
    show ((Value.object fields).choose w.indexObjects (names.map .key)).map Value.array = _ ↔ _
    rw [Value.choose_keys]
    split
    · next hnone => exact ⟨nofun, fun h => absurd hnone h.1⟩
    · next hsome =>
      constructor
      · intro h
        cases h
        exact ⟨hsome, rfl⟩
      · rintro ⟨-, rfl⟩
        rfl

/-- A field chosen twice counts twice, and so does a key that is missing. -/
theorem apply_union_of_repeated :
    (Value.object [("a", .null)]).kind = .object ∧
    (start .standard .null).apply [.union [.key "a", .computed (.literal (.string "a"))]]
      (.object [("a", .null)]) = .ok (.array [.null, .null]) ∧
    (start .standard .null).apply
        [.union [.key "c", .key "a", .computed (.literal (.string "b")), .key "c"]]
      (.object [("a", .null)]) = .error (.keysNotFound ["c", "b", "c"]) := by
  have hkind : (Value.object [("a", .null)]).kind = .object := rfl
  refine ⟨hkind, ?_, ?_⟩
  · refine (((start .standard .null).apply_union _ (.inr hkind)).2.1 _).2 ⟨_, rfl, ?_⟩
    exact .cons rfl (.cons rfl .nil)
  · refine (((start .standard .null).apply_union _ (.inr hkind)).2.2 _ ["c", "a", "b", "c"] rfl
      ?_ _).2 (by decide)
    exact .cons (.key _) (.cons (.key _) (.cons (.computed rfl) (.cons (.key _) .nil)))

end Walk

end PathQuery
