import Mathlib.Data.List.Sort
import PathQuery.Number.Integer
import PathQuery.Proofs.WalkStep

/-!
# The positions of a slice

A slice walks from one end to the other in steps, and what it selects are the numbers on the way.
`IsRun` says which numbers these are and in which order, for both directions at once. The positions
of a slice are such a run, all of them lie in the sequence, and 64-bit integers are enough to work
them out.
-/

namespace PathQuery

open Number

namespace Slice

/-- Whether a number lies before another in the direction of a step. -/
def Precedes (step a b : Int) : Prop :=
  (0 < step ∧ a < b) ∨ (step < 0 ∧ b < a)

instance (step a b : Int) : Decidable (Precedes step a b) :=
  inferInstanceAs (Decidable (_ ∨ _))

/-- The numbers from `first` on in steps, as long as they lie before `last`, in the order of the
steps. -/
structure IsRun (step first last : Int) (run : List Nat) : Prop where
  ordered : run.Pairwise fun i j : Nat => Precedes step i j
  mem_iff (i : Nat) : i ∈ run ↔ ∃ k : Nat, (i : Int) = first + k * step ∧ Precedes step i last

variable {step first last : Int} {run run' : List Nat}

/-- A run is determined by its ends and its step. -/
theorem IsRun.eq (h : IsRun step first last run) (h' : IsRun step first last run') :
    run = run' := by
  have : Std.Irrefl fun i j : Nat => Precedes step i j := ⟨fun i hi => by
    rcases hi with ⟨-, hi⟩ | ⟨-, hi⟩ <;> exact Int.lt_irrefl _ hi⟩
  have : Std.Antisymm fun i j : Nat => Precedes step i j := ⟨fun i j hij hji => by
    unfold Precedes at hij hji
    omega⟩
  exact h.ordered.eq_of_mem_iff h'.ordered fun i => (h.mem_iff i).trans (h'.mem_iff i).symm

/-- What lies behind a number in the direction of the steps lies behind it after each of them. -/
theorem not_precedes_add {a b : Int} (h : ¬Precedes step a b) (k : Nat) :
    ¬Precedes step (a + k * step) b := by
  unfold Precedes at *
  rcases Int.lt_trichotomy step 0 with hstep | rfl | hstep
  · have := Int.mul_nonpos_of_nonneg_of_nonpos (Int.natCast_nonneg k) (Int.le_of_lt hstep)
    omega
  · omega
  · have := Int.mul_nonneg (Int.natCast_nonneg k) (Int.le_of_lt hstep)
    omega

theorem IsRun.nil (h : ¬Precedes step first last) : IsRun step first last [] where
  ordered := .nil
  mem_iff i := by
    constructor
    · intro hi
      cases hi
    · rintro ⟨k, hk, hi⟩
      exact absurd (hk ▸ hi) (not_precedes_add h k)

/-- One step of a run. -/
theorem IsRun.cons {i : Nat} (hi : Precedes step i last) (h : IsRun step (i + step) last run) :
    IsRun step i last (i :: run) where
  ordered := by
    refine List.pairwise_cons.2 ⟨fun j hj => ?_, h.ordered⟩
    obtain ⟨k, hk, -⟩ := (h.mem_iff j).1 hj
    unfold Precedes at *
    rcases hi with ⟨hstep, -⟩ | ⟨hstep, -⟩
    · have := Int.mul_nonneg (Int.natCast_nonneg k) (Int.le_of_lt hstep)
      omega
    · have := Int.mul_nonpos_of_nonneg_of_nonpos (Int.natCast_nonneg k) (Int.le_of_lt hstep)
      omega
  mem_iff j := by
    rw [List.mem_cons, h.mem_iff]
    constructor
    · rintro (rfl | ⟨k, hk, hj⟩)
      · exact ⟨0, by simp, hi⟩
      · refine ⟨k + 1, ?_, hj⟩
        rw [Int.natCast_succ, Int.add_mul]
        omega
    · rintro ⟨k, hk, hj⟩
      cases k with
      | zero => exact .inl (by omega)
      | succ k =>
        rw [Int.natCast_succ, Int.add_mul] at hk
        exact .inr ⟨k, by omega, hj⟩

/-! ## Positions -/

/-- How many steps lead from one number up to another. -/
theorem lt_steps_iff {start stop : Int} (hstep : 0 < step) (k : Nat) :
    k < ((stop - start + step - 1) / step).toNat ↔ start + k * step < stop := by
  have hle : ((k : Int) + 1 ≤ (stop - start + step - 1) / step) ↔
      ((k : Int) + 1) * step ≤ stop - start + step - 1 := Int.le_ediv_iff_mul_le hstep
  rw [Int.add_mul, Int.one_mul] at hle
  omega

theorem isRun_ascending (hstep : 0 < step) (hfirst : 0 ≤ first) :
    IsRun step first last (ascending first last step) where
  ordered := by
    refine List.pairwise_map.2 (List.pairwise_lt_range.imp fun {k l} hkl => Or.inl ⟨hstep, ?_⟩)
    have hk := Int.mul_nonneg (Int.natCast_nonneg k) (Int.le_of_lt hstep)
    have hl : (k : Int) * step < l * step := Int.mul_lt_mul_of_pos_right (by omega) hstep
    omega
  mem_iff i := by
    simp only [ascending, List.mem_map, List.mem_range, lt_steps_iff hstep]
    constructor
    · rintro ⟨k, hk, rfl⟩
      have := Int.mul_nonneg (Int.natCast_nonneg k) (Int.le_of_lt hstep)
      exact ⟨k, by omega, .inl ⟨hstep, by omega⟩⟩
    · rintro ⟨k, hk, ⟨-, hi⟩ | ⟨hneg, -⟩⟩
      · exact ⟨k, by omega, by omega⟩
      · omega

theorem isRun_descending (hstep : step < 0) (hlast : -1 ≤ last) :
    IsRun step first last (descending first last (-step)) where
  ordered := by
    have hsteps : 0 < -step := by omega
    refine List.pairwise_map.2 (List.pairwise_lt_range.imp_of_mem fun {k l} _ hl hkl =>
      Or.inr ⟨hstep, ?_⟩)
    have hlt := (lt_steps_iff hsteps l).1 (List.mem_range.1 hl)
    have hkl : (k : Int) * -step < l * -step := Int.mul_lt_mul_of_pos_right (by omega) hsteps
    omega
  mem_iff i := by
    have hsteps : 0 < -step := by omega
    simp only [descending, List.mem_map, List.mem_range, lt_steps_iff hsteps]
    constructor
    · rintro ⟨k, hk, rfl⟩
      rw [Int.mul_neg] at hk ⊢
      exact ⟨k, by omega, .inr ⟨hstep, by omega⟩⟩
    · rintro ⟨k, hk, ⟨hpos, -⟩ | ⟨-, hi⟩⟩
      · omega
      · rw [← Int.neg_neg step, Int.mul_neg] at hk
        exact ⟨k, by omega, by omega⟩

/-- Where a slice starts; by default at the first position in the direction of its steps. -/
def startIn (size : Nat) (start : Option Int64) (step : Int64) : Int :=
  if 0 < step.toInt then max 0 (min size ((start.map (fromStart size)).getD 0))
  else max (-1) (min (size - 1) ((start.map (fromStart size)).getD (size - 1)))

/-- Where a slice ends; by default behind the last position in the direction of its steps. -/
def stopIn (size : Nat) (stop : Option Int64) (step : Int64) : Int :=
  if 0 < step.toInt then max 0 (min size ((stop.map (fromStart size)).getD size))
  else max (-1) (min (size - 1) ((stop.map (fromStart size)).getD (-1)))

/-- The ends of a slice are such that what lies between them are positions. -/
theorem ends_in_range (size : Nat) (start stop : Option Int64) {step : Int64}
    (hstep : step.toInt ≠ 0) :
    (0 < step.toInt ∧ 0 ≤ startIn size start step ∧ stopIn size stop step ≤ size) ∨
      (step.toInt < 0 ∧ startIn size start step < size ∧ -1 ≤ stopIn size stop step) := by
  unfold startIn stopIn
  split <;> omega

theorem IsRun.lt_size {start stop : Option Int64} {step : Int64} {size : Nat}
    (h : IsRun step.toInt (startIn size start step) (stopIn size stop step) run)
    (hstep : step.toInt ≠ 0) {i : Nat} (hi : i ∈ run) : i < size := by
  obtain ⟨k, hk, hlast⟩ := (h.mem_iff i).1 hi
  rcases ends_in_range size start stop hstep with ⟨hpos, -, hend⟩ | ⟨hneg, hfirst, -⟩
  · unfold Precedes at hlast
    omega
  · have := Int.mul_nonpos_of_nonneg_of_nonpos (Int.natCast_nonneg k) (Int.le_of_lt hneg)
    omega

theorem isRun_positions (size : Nat) (start stop : Option Int64) {step : Int64}
    (hstep : step.toInt ≠ 0) : ∃ run, positions size start stop step = .ok run ∧
      IsRun step.toInt (startIn size start step) (stopIn size stop step) run := by
  unfold positions
  by_cases hpos : 0 < step.toInt
  · rw [if_pos hpos]
    refine ⟨_, rfl, ?_⟩
    rw [startIn, stopIn, if_pos hpos, if_pos hpos]
    refine isRun_ascending hpos ?_
    exact Int.le_max_left _ _
  · rw [if_neg hpos, if_pos (by omega)]
    refine ⟨_, rfl, ?_⟩
    rw [startIn, stopIn, if_neg hpos, if_neg hpos]
    refine isRun_descending (by omega) ?_
    exact Int.le_max_left _ _

/-! ## 64-bit integers -/

/-- An end of a slice, counted from the start of the sequence, if it fits. -/
def fromStart? (size bound : Int64) : Option Int64 :=
  if bound < 0 then ofInt? (size.toInt + bound.toInt) else some bound

/-- Brings a number between two others, if these are in order. -/
def clamp? (low high n : Int64) : Option Int64 :=
  if high < low then none else some (if n < low then low else if high < n then high else n)

/-- The numbers from `i` on in steps, as long as they lie before `stop`. A step to a number that
does not fit ends the walk. -/
def walk (stop step i : Int64) : List Int64 :=
  if Precedes step.toInt i.toInt stop.toInt then
    match _hnext : ofInt? (i.toInt + step.toInt) with
    | some next => i :: walk stop step next
    | none => [i]
  else []
termination_by (if 0 < step.toInt then stop.toInt - i.toInt else i.toInt - stop.toInt).toNat
decreasing_by
  have := ofInt?_eq_some_iff.1 _hnext
  unfold Precedes at *
  split <;> omega

/-- The positions of a slice worked out in 64-bit integers; `none` if a number does not fit before
the walk starts. -/
def positions? (size : Int64) (start stop : Option Int64) (step : Int64) :
    Option (List Int64) := do
  let start ← start.mapM (fromStart? size)
  let stop ← stop.mapM (fromStart? size)
  if 0 < step then
    return walk (← clamp? 0 size (stop.getD size)) step (← clamp? 0 size (start.getD 0))
  else
    let last ← ofInt? (size.toInt - 1)
    return walk (← clamp? (-1) last (stop.getD (-1))) step (← clamp? (-1) last (start.getD last))

theorem ofInt?_isSome (n : Int) (hlow : Int64.minValue.toInt ≤ n)
    (hhigh : n ≤ Int64.maxValue.toInt) : ∃ k, ofInt? n = some k ∧ k.toInt = n :=
  ⟨Int64.ofIntLE n hlow hhigh, dif_pos ⟨hlow, hhigh⟩, Int64.toInt_ofIntLE⟩

/-- A walk is a run: where the next step does not fit, the end has been passed. -/
theorem isRun_walk (stop step i : Int64)
    (h : (0 < step.toInt ∧ 0 ≤ i.toInt) ∨ (step.toInt < 0 ∧ -1 ≤ stop.toInt)) :
    ∃ run : List Nat, (walk stop step i).map Int64.toInt = run.map Int.ofNat ∧
      IsRun step.toInt i.toInt stop.toInt run := by
  fun_induction walk stop step i with
  | case1 i hi next hnext ih =>
    have hsum := ofInt?_eq_some_iff.1 hnext
    have hnonneg : 0 ≤ i.toInt := by unfold Precedes at hi; omega
    obtain ⟨run, hrun, hisRun⟩ := ih (by omega)
    obtain ⟨n, hn⟩ := Int.eq_ofNat_of_zero_le hnonneg
    refine ⟨n :: run, by rw [List.map_cons, List.map_cons, hrun, hn]; rfl, ?_⟩
    rw [hn] at hi hsum ⊢
    exact .cons hi (hsum ▸ hisRun)
  | case2 i hi hnext =>
    have hnonneg : 0 ≤ i.toInt := by unfold Precedes at hi; omega
    have hpast : ¬Precedes step.toInt (i.toInt + step.toInt) stop.toInt := by
      intro hnext'
      unfold Precedes at hnext'
      have hlow := stop.minValue_le_toInt
      have hlow' := i.minValue_le_toInt
      have hhigh := stop.toInt_le
      have hhigh' := i.toInt_le
      obtain ⟨k, hk, -⟩ := ofInt?_isSome (i.toInt + step.toInt) (by omega) (by omega)
      rw [hk] at hnext
      cases hnext
    obtain ⟨n, hn⟩ := Int.eq_ofNat_of_zero_le hnonneg
    refine ⟨[n], by rw [List.map_singleton, List.map_singleton, hn]; rfl, ?_⟩
    rw [hn] at hi hpast ⊢
    exact .cons hi (.nil hpast)
  | case3 i hi => exact ⟨[], rfl, .nil hi⟩

variable {size : Nat} {length : Int64}

theorem exists_fromStart? (hlength : length.toInt = size) (bound : Int64) :
    ∃ k, fromStart? length bound = some k ∧ k.toInt = fromStart size bound := by
  unfold fromStart? fromStart
  by_cases hbound : bound < 0
  · have hneg : bound.toInt < 0 := Int64.lt_iff_toInt_lt.1 hbound
    rw [if_pos hbound, if_pos hneg, hlength]
    have := bound.minValue_le_toInt
    have := length.toInt_le
    exact ofInt?_isSome _ (by omega) (by omega)
  · have hneg : ¬bound.toInt < 0 := fun hneg => hbound (Int64.lt_iff_toInt_lt.2 hneg)
    rw [if_neg hbound, if_neg hneg]
    exact ⟨bound, rfl, rfl⟩

theorem exists_mapM_fromStart? (hlength : length.toInt = size) (bound : Option Int64) :
    ∃ k, bound.mapM (fromStart? length) = some k ∧
      k.map Int64.toInt = bound.map (fromStart size) := by
  cases bound with
  | none => exact ⟨none, rfl, rfl⟩
  | some bound =>
    obtain ⟨k, hk, heq⟩ := exists_fromStart? hlength bound
    exact ⟨some k, by rw [Option.mapM_some, hk]; rfl, congrArg some heq⟩

theorem exists_clamp? {low high : Int64} (h : low.toInt ≤ high.toInt) (n : Int64) :
    ∃ k, clamp? low high n = some k ∧ k.toInt = clamp low.toInt high.toInt n.toInt := by
  unfold clamp? clamp
  rw [if_neg (by rw [Int64.lt_iff_toInt_lt]; omega)]
  refine ⟨_, rfl, ?_⟩
  simp only [Int64.lt_iff_toInt_lt]
  split
  · omega
  · split <;> omega

theorem toInt_getD {bound : Option Int64} {b : Option Int} (h : bound.map Int64.toInt = b)
    (d : Int64) : (bound.getD d).toInt = b.getD d.toInt := by
  subst h
  cases bound <;> rfl

/-- In 64-bit integers a slice selects a run between the same ends. -/
theorem isRun_positions? (hlength : length.toInt = size) (start stop : Option Int64) {step : Int64}
    (hstep : step.toInt ≠ 0) :
    ∃ words run, positions? length start stop step = some words ∧
      words.map Int64.toInt = run.map Int.ofNat ∧
      IsRun step.toInt (startIn size start step) (stopIn size stop step) run := by
  obtain ⟨start', hstart, hstart'⟩ := exists_mapM_fromStart? hlength start
  obtain ⟨stop', hstop, hstop'⟩ := exists_mapM_fromStart? hlength stop
  unfold positions?
  rw [hstart, hstop, Option.bind_eq_bind, Option.bind_some, Option.bind_eq_bind, Option.bind_some]
  by_cases hpos : 0 < step
  · have hpos' : 0 < step.toInt := Int64.lt_iff_toInt_lt.1 hpos
    have hsize : Int64.toInt 0 ≤ length.toInt := hlength ▸ Int.natCast_nonneg size
    obtain ⟨lower, hlower, hlower'⟩ := exists_clamp? hsize (start'.getD 0)
    obtain ⟨upper, hupper, hupper'⟩ := exists_clamp? hsize (stop'.getD length)
    rw [toInt_getD hstart', hlength] at hlower'
    rw [toInt_getD hstop', hlength] at hupper'
    have hleast : 0 ≤ lower.toInt := hlower' ▸ Int.le_max_left _ _
    obtain ⟨run, hrun, hisRun⟩ := isRun_walk upper step lower (.inl ⟨hpos', hleast⟩)
    rw [if_pos hpos, hlower, hupper, startIn, stopIn, if_pos hpos', if_pos hpos']
    rw [hlower', hupper'] at hisRun
    exact ⟨_, run, rfl, hrun, hisRun⟩
  · have hpos' : ¬0 < step.toInt := fun h => hpos (Int64.lt_iff_toInt_lt.2 h)
    have hneg : step.toInt < 0 := by omega
    have hleast : Int64.minValue.toInt ≤ -1 := Int64.minValue_le_toInt (-1)
    have hgreatest := length.toInt_le
    obtain ⟨final, hfinal, hfinal'⟩ := ofInt?_isSome (length.toInt - 1) (by omega) (by omega)
    rw [hlength] at hfinal'
    have hsize : Int64.toInt (-1) ≤ final.toInt := by
      rw [hfinal']
      exact Int.sub_le_sub_right (Int.natCast_nonneg size) 1
    obtain ⟨upper, hupper, hupper'⟩ := exists_clamp? hsize (start'.getD final)
    obtain ⟨lower, hlower, hlower'⟩ := exists_clamp? hsize (stop'.getD (-1))
    rw [toInt_getD hstart', hfinal'] at hupper'
    rw [toInt_getD hstop', hfinal'] at hlower'
    have hleast : -1 ≤ lower.toInt := hlower' ▸ Int.le_max_left _ _
    obtain ⟨run, hrun, hisRun⟩ := isRun_walk lower step upper (.inr ⟨hneg, hleast⟩)
    rw [if_neg hpos, hfinal, startIn, stopIn, if_neg hpos', if_neg hpos']
    simp only [Option.bind_some, hupper, hlower]
    rw [hlower', hupper'] at hisRun
    exact ⟨_, run, rfl, hrun, hisRun⟩

end Slice

/-! ## What is read -/

/-- What the positions of a value stand for: elements, characters or fields. -/
def Value.slots : Value → List Value
  | .array items => items
  | .string s => s.toList.map fun c => .string (String.singleton c)
  | .object fields => Fields.values fields
  | _ => []

/-- What a part of a value holds: elements, fields or characters. -/
def Value.Part.slots : Value.Part → List Value
  | .items members => members
  | .text s => s.toList.map fun c => .string (String.singleton c)

/-- A part of a value as what a segment finds. -/
def Value.Part.found : Value.Part → Walk.Found
  | .items members => .many members
  | .text s => .one (.string s)

theorem Value.length_slots {v : Value} {indexObjects : Bool} {size : Nat}
    (h : v.sliceSize indexObjects = .ok size) : v.slots.length = size := by
  cases v with
  | array items =>
    cases h
    rfl
  | string s =>
    cases h
    exact List.length_map _
  | object fields =>
    rw [sliceSize] at h
    split at h
    · cases h
      exact Fields.length_values fields
    · cases h
  | null | bool | integer | float => cases h

/-- Positions of a list are all read. -/
theorem map_some_filterMap_getElem? {α : Type} {xs : List α} {positions : List Nat}
    (h : ∀ i ∈ positions, i < xs.length) :
    (positions.filterMap (xs[·]?)).map some = positions.map (xs[·]?) := by
  induction positions with
  | nil => rfl
  | cons i rest ih =>
    obtain ⟨x, hi⟩ : ∃ x, xs[i]? = some x := ⟨_, List.getElem?_eq_getElem (h i List.mem_cons_self)⟩
    rw [List.filterMap_cons, hi, List.map_cons, List.map_cons, hi,
      ih fun j hj => h j (List.mem_cons_of_mem _ hj)]

/-- A part of a value holds what is at its positions, if these are in range. -/
theorem Value.slots_select {v : Value} {positions : List Nat}
    (h : ∀ i ∈ positions, i < v.slots.length) :
    (v.select positions).slots.map some = positions.map (v.slots[·]?) := by
  cases v with
  | array items => exact map_some_filterMap_getElem? h
  | object fields => exact map_some_filterMap_getElem? h
  | string s =>
    rw [slots, List.length_map] at h
    have hread := congrArg (List.map (Option.map fun c => string (String.singleton c)))
      (map_some_filterMap_getElem? h)
    simpa [select, Part.slots, slots, Function.comp_def] using hread
  | null | bool | integer | float =>
    cases positions with
    | nil => rfl
    | cons i rest => exact absurd (h i List.mem_cons_self) (Nat.not_lt_zero i)

/-- A slice finds the part of a value at its positions. -/
theorem Walk.find_range {w : Walk} {v : Value} {size : Nat} {start stop step : Option Int64}
    {a b c : Option Bound} (hsize : v.sliceSize w.indexObjects = .ok size)
    (hstart : w.bound .rangeStart v a = .ok start) (hstop : w.bound .rangeStop v b = .ok stop)
    (hstep : w.bound .rangeStep v c = .ok step) :
    w.find v (.range a b c) =
      (Slice.positions size start stop (step.getD 1)).map fun run => (v.select run).found := by
  simp only [find, slice, hsize, hstart, hstop, hstep, bind, Except.bind]
  cases Slice.positions size start stop (step.getD 1) with
  | error fault => rfl
  | ok run =>
    change (match v.select run with
      | .items items => pure (Found.many items)
      | .text s => pure (Found.one (.string s))) = Except.ok (v.select run).found
    cases v.select run <;> rfl

/-- A slice fails for a step of zero only. Its positions are otherwise the run from where it starts
to where it ends, each of them lies in the sequence, 64-bit integers are enough to work them out,
and a slice of a value reads what is there. -/
theorem Slice.positions_eq_run (size : Nat) (start stop : Option Int64) (step : Int64) :
    (step = 0 → positions size start stop step = .error (.invalidArgument .nonZero "0")) ∧
      (step ≠ 0 → ∃ run, positions size start stop step = .ok run ∧
        IsRun step.toInt (startIn size start step) (stopIn size stop step) run ∧
        (∀ i ∈ run, i < size) ∧
        (∀ length : Int64, length.toInt = size → ∃ words,
          positions? length start stop step = some words ∧
            words.map Int64.toInt = run.map Int.ofNat) ∧
        ∀ (w : Walk) (v : Value) (a b c : Option Bound) (stride : Option Int64),
          v.sliceSize w.indexObjects = .ok size → w.bound .rangeStart v a = .ok start →
          w.bound .rangeStop v b = .ok stop → w.bound .rangeStep v c = .ok stride →
          stride.getD 1 = step → w.find v (.range a b c) = .ok (v.select run).found ∧
            (v.select run).slots.map some = run.map (v.slots[·]?)) := by
  refine ⟨?_, fun hne => ?_⟩
  · rintro rfl
    rfl
  · have hstep : step.toInt ≠ 0 := fun h => hne (Int64.toInt_inj.1 h)
    obtain ⟨run, hpositions, hrun⟩ := isRun_positions size start stop hstep
    have hsize : ∀ i ∈ run, i < size := fun i hi => hrun.lt_size hstep hi
    refine ⟨run, hpositions, hrun, hsize, fun length hlength => ?_,
      fun w v a b c stride hv hstart hstop hc hstride => ?_⟩
    · obtain ⟨words, run', hwords, hmap, hrun'⟩ := isRun_positions? hlength start stop hstep
      exact ⟨words, hwords, hrun.eq hrun' ▸ hmap⟩
    · refine ⟨?_, Value.slots_select (Value.length_slots hv ▸ hsize)⟩
      rw [Walk.find_range hv hstart hstop hc, hstride, hpositions]
      rfl

/-- Going down from the last of four positions by two, an end of -4 is the first position and is not
reached. -/
theorem Slice.positions_eq_run_downwards :
    positions 4 none (some (-4)) (-2) = .ok [3, 1] ∧ IsRun (-2) 3 0 [3, 1] ∧
      positions? 4 none (some (-4)) (-2) = some [3, 1] ∧
      positions 4 none none 0 = .error (.invalidArgument .nonZero "0") ∧
      (Walk.start .standard .null).find (.array [.null, .bool true, .integer 2, .string "x"])
          (.range none (some (.literal (-4))) (some (.literal (-2)))) =
        .ok (.many [.string "x", .bool true]) := by
  obtain ⟨run, hpositions, hrun, -, hwords, hread⟩ :=
    (positions_eq_run 4 none (some (-4)) (-2)).2 (by decide)
  have hrun' : run = [3, 1] := Except.ok.inj (hpositions.symm.trans rfl)
  subst hrun'
  refine ⟨hpositions, hrun, ?_, (positions_eq_run 4 none none 0).1 rfl, ?_⟩
  · obtain ⟨words, hsome, hmap⟩ := hwords 4 rfl
    rw [hsome]
    exact congrArg some (List.map_injective_iff.2 (fun _ _ => Int64.toInt_inj.1) (hmap.trans rfl))
  · exact (hread (Walk.start .standard .null) (.array [.null, .bool true, .integer 2, .string "x"])
      none (some (.literal (-4))) (some (.literal (-2))) (some (-2)) rfl rfl rfl rfl rfl).1

end PathQuery
