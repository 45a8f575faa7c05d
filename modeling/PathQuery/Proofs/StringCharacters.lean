import PathQuery.Proofs.CountFromEnd

/-!
# Strings as arrays of characters

A string is indexed and sliced like the array of its characters, each of them a string of its own. An
index finds the same value in both, and a slice takes the text from the string whose characters it
takes from the array. Where the one fails, the other fails with the same fault.
-/

namespace PathQuery

open Outcome

/-- The array of the characters of a string. -/
def Value.characters (s : String) : Value :=
  .array (Value.string s).slots

/-- The segment of a slice whose ends and step are written out or missing. -/
def Segment.writtenRange (start stop step : Option Int64) : Segment :=
  .range (start.map .literal) (stop.map .literal) (step.map .literal)

/-- A part of a value as a value of its own. -/
def Value.Part.toValue : Value.Part → Value
  | .items members => .array members
  | .text s => .string s

/-! ## Indices -/

namespace Value

theorem isSequence_characters (s : String) : (characters s).IsSequence s.toList.length := by
  have hlength : (string s).slots.length = s.toList.length := List.length_map _
  rw [← hlength]
  exact .array _

theorem Part.isSequence_toValue (part : Part) : part.toValue.IsSequence part.slots.length := by
  cases part with
  | items members => exact .array members
  | text s =>
    have hlength : (Part.text s).slots.length = s.toList.length := List.length_map _
    rw [hlength]
    exact .string s

theorem Part.slots_toValue (part : Part) : part.toValue.slots = part.slots := by
  cases part <;> rfl

namespace IsSequence

variable {v v' : Value} {size : Nat} {i : Int64}

theorem length_slots (hv : v.IsSequence size) : v.slots.length = size := by
  have hsize : v.sliceSize false = .ok size := hv.sliceSize_eq
  exact Value.length_slots hsize

theorem exists_element (hv : v.IsSequence size) {place : Nat} (h : position i size = .ok place)
    (indexObjects : Bool) :
    ∃ x, v.slots[place]? = some x ∧ v.element indexObjects i = .ok x := by
  have hlt : place < v.slots.length := hv.length_slots ▸ position_lt h
  have hx := List.getElem?_eq_getElem hlt
  exact ⟨_, hx, hv.element_eq_ok h hx⟩

/-- Two sequences with the same members are indexed alike. -/
theorem element_congr (hv : v.IsSequence size) (hv' : v'.IsSequence size) (h : v.slots = v'.slots)
    (indexObjects : Bool) : v.element indexObjects i = v'.element indexObjects i := by
  cases hplace : position i size with
  | error fault => rw [hv.element_eq_error hplace, hv'.element_eq_error hplace]
  | ok place =>
    obtain ⟨x, hx, helement⟩ := hv.exists_element hplace indexObjects
    rw [helement, hv'.element_eq_ok hplace (h ▸ hx)]

end IsSequence

theorem element_characters (s : String) (i : Int64) (indexObjects : Bool) :
    (string s).element indexObjects i = (characters s).element indexObjects i :=
  (IsSequence.string s).element_congr (isSequence_characters s) rfl indexObjects

/-! ## Slices -/

/-- The characters at some positions are those of the part of the string. -/
theorem exists_select_string (s : String) (run : List Nat) :
    ∃ t, (string s).select run = .text t ∧ (characters s).select run = .items (string t).slots := by
  refine ⟨_, rfl, ?_⟩
  rw [slots, String.toList_ofList, List.map_filterMap]
  show Part.items (run.filterMap ((s.toList.map _)[·]?)) = _
  simp only [List.getElem?_map]

/-- What a string is made of, joined again. -/
theorem exists_parts (t : String) :
    ∃ parts : List String, (string t).slots = parts.map .string ∧ t = String.join parts := by
  refine ⟨t.toList.map String.singleton, ?_, ?_⟩
  · rw [slots, List.map_map]
    rfl
  · rw [← String.toList_inj, String.toList_join, List.flatMap_map]
    simp

end Value

/-- The slice that starts at an index starts with the position of the index. -/
theorem Slice.exists_positions_of_position {i : Int64} {size place : Nat}
    (h : position i size = .ok place) :
    ∃ run, positions size (some i) none 1 = .ok (place :: run) ∧ ∀ j ∈ place :: run, j < size := by
  have hlt := position_lt h
  have hstep : (1 : Int64).toInt ≠ 0 := by decide
  obtain ⟨run, hpositions, hrun⟩ := isRun_positions size (some i) none hstep
  have hstart : startIn size (some i) 1 = place := by
    unfold position at h
    dsimp only at h
    rw [startIn, if_pos (by decide), Option.map_some, Option.getD_some, fromStart]
    split at h <;> split at h <;> cases h <;> omega
  have hstop : stopIn size none 1 = size := by
    rw [stopIn, if_pos (by decide)]
    show max 0 (min (size : Int) size) = size
    omega
  have hfirst : Precedes (1 : Int64).toInt place (size : Int) :=
    .inl ⟨by decide, Int.ofNat_lt.2 hlt⟩
  have hrest : IsRun (1 : Int64).toInt (place + (1 : Int64).toInt) size
      (ascending (place + (1 : Int64).toInt) size (1 : Int64).toInt) :=
    isRun_ascending (by decide) (Int.add_nonneg (Int.natCast_nonneg place) (by decide))
  have hsize : ∀ j ∈ run, j < size := fun j hj => hrun.lt_size hstep hj
  rw [hstart, hstop] at hrun
  obtain rfl := hrun.eq (.cons hfirst hrest)
  exact ⟨_, hpositions, hsize⟩

namespace Walk

variable (w : Walk) {v : Value} {size : Nat}

theorem bound_written (slot : Slot) (v : Value) (bound : Option Int64) :
    w.bound slot v (bound.map .literal) = .ok bound := by
  cases bound <;> rw [Option.map, Walk.bound]

theorem find_writtenRange (hv : v.IsSequence size) (start stop step : Option Int64) :
    w.find v (.writtenRange start stop step) =
      (Slice.positions size start stop (step.getD 1)).map fun run => (v.select run).found :=
  find_range hv.sliceSize_eq (w.bound_written _ v start) (w.bound_written _ v stop)
    (w.bound_written _ v step)

/-- A slice finds a part of the string, and the characters of this part in the array. -/
theorem find_writtenRange_characters (s : String) (start stop step : Option Int64) :
    (∃ fault, w.find (.string s) (.writtenRange start stop step) = .error fault ∧
        w.find (.characters s) (.writtenRange start stop step) = .error fault) ∨
      ∃ t, w.find (.string s) (.writtenRange start stop step) = .ok (.one (.string t)) ∧
        w.find (.characters s) (.writtenRange start stop step) =
          .ok (.many (Value.string t).slots) := by
  rw [w.find_writtenRange (.string s), w.find_writtenRange (Value.isSequence_characters s)]
  cases Slice.positions s.toList.length start stop (step.getD 1) with
  | error fault => exact .inl ⟨fault, rfl, rfl⟩
  | ok run =>
    obtain ⟨t, htext, hitems⟩ := Value.exists_select_string s run
    refine .inr ⟨t, ?_, ?_⟩
    · exact congrArg (fun part : Value.Part => Except.ok part.found) htext
    · exact congrArg (fun part : Value.Part => Except.ok part.found) hitems

/-- An index behind a slice applies to the part as a whole. -/
theorem passOn_index (segment : Segment) (i : Int64) (rest : List Segment) (part : Value.Part) :
    w.passOn segment (.index i :: rest) part.found = w.apply (.index i :: rest) part.toValue := by
  cases part <;> rfl

/-- In an array or a string, an index is the first of the slice that starts there. -/
theorem apply_writtenRange_index (hv : v.IsSequence size) {i : Int64} (hlow : -(size : Int) ≤ i.toInt)
    (hhigh : i.toInt < size) (rest : List Segment) :
    w.apply (.writtenRange (some i) none none :: .index 0 :: rest) v =
      w.apply (.index i :: rest) v := by
  obtain ⟨place, hplace⟩ : ∃ place, position i size = .ok place := by
    unfold position
    dsimp only
    refine ⟨_, if_pos ?_⟩
    split <;> omega
  obtain ⟨run, hrun, hsize⟩ := Slice.exists_positions_of_position hplace
  obtain ⟨x, hx, helement⟩ := hv.exists_element hplace w.indexObjects
  have hslots := Value.slots_select (v := v) (hv.length_slots ▸ hsize)
  rw [List.map_cons, hx] at hslots
  obtain ⟨y, ys, hpart, hy, -⟩ := List.map_eq_cons_iff.1 hslots
  obtain rfl : y = x := Option.some.inj hy
  have hfirst : (v.select (place :: run)).toValue.element w.indexObjects 0 = .ok y := by
    have hpos : 0 < (v.select (place :: run)).slots.length := hpart ▸ Nat.succ_pos _
    refine (Value.Part.isSequence_toValue _).element_eq_ok (position_eq_ok hpos (.inl rfl)) ?_
    rw [Value.Part.slots_toValue, hpart]
    rfl
  have hindex : w.find v (.index i) = .ok (.one y) := by
    rw [find, helement]
    rfl
  have hzero : w.find (v.select (place :: run)).toValue (.index 0) = .ok (.one y) := by
    rw [find, hfirst]
    rfl
  have hslice : w.find v (.writtenRange (some i) none none) =
      .ok (v.select (place :: run)).found := by
    rw [w.find_writtenRange hv]
    exact congrArg (Except.map _) hrun
  rw [w.apply_of_find hindex, apply_cons, hslice]
  exact (w.passOn_index _ 0 rest _).trans (w.apply_of_find hzero rest)

/-- A string is indexed and sliced like the array of its characters. An index finds the same in both,
whatever follows, a character or the fault that it is out of range. A slice fails in both with the same
fault, or gives for the string what the elements that it gives for the array are joined to. In both, the
index of a position is the first of the slice that starts there. -/
theorem apply_string_eq_characters (w : Walk) (s : String) :
    (∀ (i : Int64) (rest : List Segment),
      w.apply (.index i :: rest) (.string s) = w.apply (.index i :: rest) (.characters s)) ∧
    (∀ i : Int64,
      (∃ c ∈ s.toList, w.apply [.index i] (.string s) = .ok (.string (String.singleton c))) ∨
        w.apply [.index i] (.string s) = .error (.indexOutOfRange i s.toList.length)) ∧
    (∀ start stop step : Option Int64,
      (∃ fault, w.apply [.writtenRange start stop step] (.string s) = .error fault ∧
          w.apply [.writtenRange start stop step] (.characters s) = .error fault) ∨
        ∃ parts : List String,
          w.apply [.writtenRange start stop step] (.characters s) =
            .ok (.array (parts.map .string)) ∧
          w.apply [.writtenRange start stop step] (.string s) = .ok (.string (String.join parts))) ∧
    ∀ i : Int64, -(s.toList.length : Int) ≤ i.toInt → i.toInt < s.toList.length →
      ∀ rest : List Segment,
        w.apply (.writtenRange (some i) none none :: .index 0 :: rest) (.string s) =
          w.apply (.index i :: rest) (.string s) ∧
        w.apply (.writtenRange (some i) none none :: .index 0 :: rest) (.characters s) =
          w.apply (.index i :: rest) (.characters s) := by
  have hstring := Value.IsSequence.string s
  have hcharacters := Value.isSequence_characters s
  refine ⟨fun i rest => ?_, fun i => ?_, fun start stop step => ?_, fun i hlow hhigh rest => ?_⟩
  · rw [apply_cons, apply_cons, find, find, Value.element_characters]
  · cases hplace : position i s.toList.length with
    | error fault =>
      have hfault : fault = .indexOutOfRange i s.toList.length := by
        unfold position at hplace
        dsimp only at hplace
        split at hplace <;> split at hplace <;> cases hplace <;> rfl
      subst hfault
      refine .inr (w.apply_of_find_error ?_ [])
      rw [find, hstring.element_eq_error hplace]
      rfl
    | ok place =>
      obtain ⟨x, hx, helement⟩ := hstring.exists_element hplace w.indexObjects
      obtain ⟨c, hc, rfl⟩ := List.mem_map.1 (List.mem_of_getElem? hx)
      have hfind : w.find (.string s) (.index i) = .ok (.one (.string (String.singleton c))) := by
        rw [find, helement]
        rfl
      refine .inl ⟨c, hc, (w.apply_of_find hfind []).trans ?_⟩
      rw [apply]
  · obtain ⟨fault, hfind, hfind'⟩ | ⟨t, hfind, hfind'⟩ :=
      w.find_writtenRange_characters s start stop step
    · exact .inl ⟨fault, w.apply_of_find_error hfind [], w.apply_of_find_error hfind' []⟩
    · obtain ⟨parts, hparts, hjoin⟩ := Value.exists_parts t
      refine .inr ⟨parts, ?_, ?_⟩
      · rw [apply_cons, hfind', hparts]
        rfl
      · rw [w.apply_of_find hfind, apply, hjoin]
  · exact ⟨w.apply_writtenRange_index hstring hlow hhigh rest,
      w.apply_writtenRange_index hcharacters hlow hhigh rest⟩

/-- Characters count, not bytes: from the end of these three, the second is the one in the middle. -/
theorem apply_string_eq_characters_of_wide :
    -("é日x".toList.length : Int) ≤ (-2 : Int64).toInt ∧ (-2 : Int64).toInt < "é日x".toList.length ∧
      (start .standard .null).apply [.writtenRange (some (-2)) none none, .index 0]
        (.string "é日x") = .ok (.string "日") ∧
      (start .standard .null).apply [.writtenRange (some (-2)) none none, .index 0]
        (.characters "é日x") = .ok (.string "日") := by
  obtain ⟨-, -, -, hfirst⟩ := apply_string_eq_characters (start .standard .null) "é日x"
  obtain ⟨hstring, hcharacters⟩ := hfirst (-2) (by decide) (by decide) []
  refine ⟨by decide, by decide, hstring.trans ?_, hcharacters.trans ?_⟩
  · with_unfolding_all rfl
  · with_unfolding_all rfl

end Walk

end PathQuery
