import PathQuery.Proofs.Descent
import PathQuery.Proofs.FloatOrder

/-!
# Loose equality

Two values are loosely equal when they match at the top and their children are loosely equal one by
one. Numbers match when their doubles share a place in the order of doubles, so that only a NaN does
not match itself. Loose equality is therefore an equivalence on the values without NaN, and it is
implied by the equality that tells integers from floats.
-/

namespace PathQuery.Value

open Number

/-- The place of a number in the order of doubles. -/
def place? (v : Value) : Option Place :=
  v.asFloat?.bind Number.place?

/-- Two values that do not differ as long as nobody looks at their children. -/
inductive Matches : Value → Value → Prop
  | null : Matches .null .null
  | bool (b : Bool) : Matches (.bool b) (.bool b)
  | number {a b : Value} {p : Place} : a.place? = some p → b.place? = some p → Matches a b
  | string (s : String) : Matches (.string s) (.string s)
  | array (as bs : List Value) : Matches (.array as) (.array bs)
  | object {as bs : List (String × Value)} : Fields.keys as = Fields.keys bs →
      Matches (.object as) (.object bs)

/-- A value in which there is a NaN at some depth. -/
def HoldsNaN (v : Value) : Prop :=
  ∃ x : Float, x.isNaN = true ∧ .float x ∈ v.descendants

variable {a b c : Value}

/-! ## At the top -/

theorem Matches.symm (h : a.Matches b) : b.Matches a := by
  cases h with
  | null => exact .null
  | bool t => exact .bool t
  | number ha hb => exact .number hb ha
  | string s => exact .string s
  | array as bs => exact .array bs as
  | object hkeys => exact .object hkeys.symm

theorem Matches.trans (h : a.Matches b) (h' : b.Matches c) : a.Matches c := by
  cases h with
  | null | bool | string => exact h'
  | number ha hb =>
    cases h' with
    | number hb' hc =>
      rw [hb, Option.some.injEq] at hb'
      exact .number ha (hb' ▸ hc)
    | _ => cases hb
  | array as bs =>
    cases h' with
    | array _ cs => exact .array as cs
    | number hb => cases hb
  | object hkeys =>
    cases h' with
    | object hkeys' => exact .object (hkeys.trans hkeys')
    | number hb => cases hb

theorem exists_place?_integer (n : Int64) : ∃ p, (Value.integer n).place? = some p :=
  exists_place? (isNaN_of_isFinite (isFinite_toFloat n))

theorem matches_self_iff : a.Matches a ↔ ∀ x, a = .float x → x.isNaN = false := by
  constructor
  · rintro h x rfl
    cases h with
    | number hx => exact isNaN_of_place? hx
  · intro h
    cases a with
    | null => exact .null
    | bool t => exact .bool t
    | integer n =>
      obtain ⟨p, hp⟩ := exists_place?_integer n
      exact .number hp hp
    | float x =>
      obtain ⟨p, hp⟩ := exists_place? (h x rfl)
      exact .number hp hp
    | string s => exact .string s
    | array items => exact .array items items
    | object fields => exact .object rfl

theorem looseEq_number {x y : Float} (ha : a.asFloat? = some x) (hb : b.asFloat? = some y) :
    a.looseEq b = (x == y) := by
  cases a <;> cases ha <;> cases b <;> cases hb <;> rw [looseEq]

/-- Numbers are loosely equal when they share a place. -/
theorem looseEq_number_iff {x y : Float} (ha : a.asFloat? = some x) (hb : b.asFloat? = some y) :
    a.looseEq b = true ↔ ∃ p, a.place? = some p ∧ b.place? = some p := by
  rw [looseEq_number ha hb, beq_iff_place?, place?, place?, ha, hb]
  rfl

/-! ## Down to the children -/

theorem looseEqItems_iff {as bs : List Value} : looseEqItems as bs = true ↔
    List.Forall₂ (fun a b => a.looseEq b = true) as bs := by
  induction as generalizing bs with
  | nil => cases bs <;> simp [looseEqItems]
  | cons a as ih => cases bs <;> simp [looseEqItems, ih]

theorem looseEqFields_iff {as bs : List (String × Value)} : looseEqFields as bs = true ↔
    Fields.keys as = Fields.keys bs ∧
      List.Forall₂ (fun a b => a.looseEq b = true) (Fields.values as) (Fields.values bs) := by
  induction as generalizing bs with
  | nil => cases bs <;> simp [looseEqFields, Fields.keys, Fields.values]
  | cons a as ih =>
    cases bs with
    | nil => simp [looseEqFields, Fields.keys, Fields.values]
    | cons b bs =>
      simp only [looseEqFields, ih, Fields.keys, Fields.values, List.map_cons, Bool.and_eq_true,
        beq_iff_eq, List.cons.injEq, List.forall₂_cons]
      tauto

/-- Loose equality is a match at the top and loose equality of the children one by one. -/
theorem looseEq_iff : a.looseEq b = true ↔
    a.Matches b ∧ List.Forall₂ (fun x y => x.looseEq y = true) a.children b.children := by
  constructor
  · intro h
    have hnumber {x y : Float} (ha : a.asFloat? = some x) (hb : b.asFloat? = some y) :
        a.Matches b := by
      obtain ⟨p, hp, hq⟩ := (looseEq_number_iff ha hb).1 h
      exact .number hp hq
    unfold looseEq at h
    split at h
    case h_1 => exact ⟨.null, .nil⟩
    case h_2 s t => exact ⟨eq_of_beq h ▸ .bool s, .nil⟩
    case h_3 | h_4 | h_5 | h_6 => exact ⟨hnumber rfl rfl, .nil⟩
    case h_7 s t => exact ⟨eq_of_beq h ▸ .string s, .nil⟩
    case h_8 as bs => exact ⟨.array as bs, looseEqItems_iff.1 h⟩
    case h_9 as bs =>
      obtain ⟨hkeys, hvalues⟩ := looseEqFields_iff.1 h
      exact ⟨.object hkeys, hvalues⟩
    case h_10 => cases h
  · rintro ⟨hmatch, hchildren⟩
    cases hmatch with
    | null => rfl
    | bool t => exact (looseEq.eq_def ..).trans (beq_self_eq_true t)
    | number ha hb =>
      obtain ⟨x, hx, -⟩ := Option.bind_eq_some_iff.1 ha
      obtain ⟨y, hy, -⟩ := Option.bind_eq_some_iff.1 hb
      exact (looseEq_number_iff hx hy).2 ⟨_, ha, hb⟩
    | string s => exact (looseEq.eq_def ..).trans (beq_self_eq_true s)
    | array as bs => exact (looseEq.eq_def ..).trans (looseEqItems_iff.2 hchildren)
    | object hkeys =>
      exact (looseEq.eq_def ..).trans (looseEqFields_iff.2 ⟨hkeys, hchildren⟩)

/-! ## An equivalence -/

theorem looseEq_symm (h : a.looseEq b = true) : b.looseEq a = true := by
  induction a using children_induction generalizing b with
  | h a ih =>
    obtain ⟨hmatch, hchildren⟩ := looseEq_iff.1 h
    refine looseEq_iff.2 ⟨hmatch.symm, .flip ?_⟩
    exact ((List.forall₂_and_left ..).2 ⟨ih, hchildren⟩).imp fun x y hxy => hxy.1 hxy.2

theorem forall₂_trans {R : Value → Value → Prop} {as bs cs : List Value}
    (h : ∀ a ∈ as, ∀ {b c}, R a b → R b c → R a c) (hab : List.Forall₂ R as bs)
    (hbc : List.Forall₂ R bs cs) : List.Forall₂ R as cs := by
  induction hab generalizing cs with
  | nil => exact hbc
  | cons hab _ ih =>
    cases hbc with
    | cons hbc hrest =>
      refine .cons (h _ List.mem_cons_self hab hbc) (ih ?_ hrest)
      exact fun a ha => h a (List.mem_cons_of_mem _ ha)

theorem looseEq_trans (h : a.looseEq b = true) (h' : b.looseEq c = true) : a.looseEq c = true := by
  induction a using children_induction generalizing b c with
  | h a ih =>
    obtain ⟨hmatch, hchildren⟩ := looseEq_iff.1 h
    obtain ⟨hmatch', hchildren'⟩ := looseEq_iff.1 h'
    exact looseEq_iff.2 ⟨hmatch.trans hmatch', forall₂_trans ih hchildren hchildren'⟩

theorem not_holdsNaN_iff : ¬a.HoldsNaN ↔ ∀ x, .float x ∈ a.descendants → x.isNaN = false := by
  simp only [HoldsNaN, not_exists, not_and', Bool.not_eq_true]

theorem looseEq_self_iff : a.looseEq a = true ↔ ¬a.HoldsNaN := by
  rw [not_holdsNaN_iff]
  induction a using children_induction with
  | h a ih =>
    rw [looseEq_iff, matches_self_iff, List.forall₂_same, descendants_eq]
    constructor
    · rintro ⟨htop, hchildren⟩ x hx
      rcases List.mem_cons.1 hx with rfl | hx
      · exact htop x rfl
      · obtain ⟨child, hchild, hx⟩ := List.mem_flatMap.1 hx
        exact (ih child hchild).1 (hchildren child hchild) x hx
    · intro h
      refine ⟨fun x hx => h x (List.mem_cons.2 (.inl hx.symm)), fun child hchild => ?_⟩
      refine (ih child hchild).2 fun x hx => h x (List.mem_cons_of_mem _ ?_)
      exact List.mem_flatMap.2 ⟨child, hchild, hx⟩

/-! ## The stricter equality -/

mutual

theorem looseEq_of_strictEq : ∀ a b : Value, a.strictEq b = true → a.looseEq b = true
  | .null, b, h => by
    cases b with
    | null => rfl
    | _ => cases h
  | .bool s, b, h => by
    cases b with
    | bool t => exact h
    | _ => cases h
  | .integer m, b, h => by
    cases b with
    | integer n =>
      obtain rfl : m = n := eq_of_beq h
      obtain ⟨p, hp⟩ := exists_place?_integer m
      exact (looseEq_number_iff rfl rfl).2 ⟨p, hp, hp⟩
    | _ => cases h
  | .float x, b, h => by
    cases b with
    | float y => exact h
    | _ => cases h
  | .string s, b, h => by
    cases b with
    | string t => exact h
    | _ => cases h
  | .array as, b, h => by
    cases b with
    | array bs => exact looseEqItems_of_strictEqItems as bs h
    | _ => cases h
  | .object as, b, h => by
    cases b with
    | object bs => exact looseEqFields_of_strictEqFields as bs h
    | _ => cases h

theorem looseEqItems_of_strictEqItems : ∀ as bs : List Value,
    strictEqItems as bs = true → looseEqItems as bs = true
  | [], [], _ => rfl
  | a :: as, b :: bs, h => by
    simp only [strictEqItems, looseEqItems, Bool.and_eq_true] at h ⊢
    exact ⟨looseEq_of_strictEq a b h.1, looseEqItems_of_strictEqItems as bs h.2⟩

theorem looseEqFields_of_strictEqFields : ∀ as bs : List (String × Value),
    strictEqFields as bs = true → looseEqFields as bs = true
  | [], [], _ => rfl
  | (k, a) :: as, (l, b) :: bs, h => by
    simp only [strictEqFields, looseEqFields, Bool.and_eq_true] at h ⊢
    exact ⟨⟨h.1.1, looseEq_of_strictEq a b h.1.2⟩, looseEqFields_of_strictEqFields as bs h.2⟩

end

/-- Loose equality is symmetric and transitive, it holds between a value and itself just when there
is no NaN in the value, and it holds wherever the stricter equality does. -/
theorem looseEq_isEquivalence (a b c : Value) :
    a.looseEq b = b.looseEq a ∧
    (a.looseEq b = true → b.looseEq c = true → a.looseEq c = true) ∧
    (a.looseEq a = true ↔ ¬a.HoldsNaN) ∧
    ((a == b) = true → a.looseEq b = true) := by
  refine ⟨?_, looseEq_trans, looseEq_self_iff, looseEq_of_strictEq a b⟩
  rw [Bool.eq_iff_iff]
  exact ⟨looseEq_symm, looseEq_symm⟩

/-- `2 ^ 53` and `2 ^ 53 + 1` differ as integers, but both are loosely equal to the double `2 ^ 53`,
and so to one another. -/
theorem looseEq_of_neighbours :
    ((Value.array [.integer 9007199254740993]).looseEq (.array [.float 9007199254740992.0]) =
        true ∧
      (Value.array [.float 9007199254740992.0]).looseEq (.array [.integer 9007199254740992]) =
        true) ∧
    (Value.array [.integer 9007199254740993] == .array [.integer 9007199254740992]) = false ∧
    (Value.array [.integer 9007199254740993]).looseEq (.array [.integer 9007199254740992]) =
      true := by
  have habove : (Value.array [.integer 9007199254740993]).looseEq
      (.array [.float 9007199254740992.0]) = true := by decide +kernel
  have hbelow : (Value.array [.float 9007199254740992.0]).looseEq
      (.array [.integer 9007199254740992]) = true := by decide +kernel
  obtain ⟨-, htrans, -⟩ := looseEq_isEquivalence (.array [.integer 9007199254740993])
    (.array [.float 9007199254740992.0]) (.array [.integer 9007199254740992])
  exact ⟨⟨habove, hbelow⟩, by decide +kernel, htrans habove hbelow⟩

end PathQuery.Value
