import PathQuery.Proofs.FieldDifference
import PathQuery.Proofs.IntegerArithmetic
import PathQuery.Proofs.SlicePositions

/-!
# Counting from the end

The last elements of an array or of a string can be named in two ways: `[-2]` counts from the end,
and `[(@.length-2)]` computes the position from the length. Both come to the same position as long as
the number is no greater than the length, and so do the slices that start there. Past the front they
part: the computed number is then negative and counts from the end once more.
-/

namespace PathQuery

open Number Text Outcome

/-- A value that is an array or a string, and its number of elements or characters. -/
inductive Value.IsSequence : Value → Nat → Prop
  | array (items : List Value) : IsSequence (.array items) items.length
  | string (s : String) : IsSequence (.string s) s.toList.length

/-- The expression `@.length - k`. -/
def Expr.lengthMinus (k : Int64) : Expr :=
  .difference "length" k

/-! ## Negative numbers -/

section Negative

variable {k : Int64}

theorem toInt_neg_of_pos (hk : 0 < k) : (-k).toInt = -k.toInt := by
  have hpos : 0 < k.toInt := Int64.lt_iff_toInt_lt.1 hk
  have hlt := Int64.toInt_lt k
  rw [Int64.toInt_neg]
  exact Int.bmod_eq_of_le (by omega) (by omega)

theorem intText_neg (hk : 0 < k) : intText (-k).toInt = '-' :: intText k.toInt := by
  have hpos : 0 < k.toInt := Int64.lt_iff_toInt_lt.1 hk
  rw [toInt_neg_of_pos hk, Chain.intText_of_neg (by omega), Int.neg_neg]

end Negative

/-! ## Reading the segments -/

namespace Segment

section Word

variable {lenient : Bool} {build : ExprBuilder} {text : List Char} {expr : Expr}

theorem ofWord_script (hclosed : Closed .parentheses text) (hbuild : build text = .ok (some expr)) :
    ofWord lenient build (bracketed (parenthesised text)) = .ok (.script expr) := by
  have hwell : ∀ a ∈ [some (Argument.expression text)], ∀ b ∈ a, b.WellFormed := by
    intro a ha b hb
    rw [List.mem_singleton.1 ha] at hb
    cases hb
    exact hclosed
  have hword : ofWord lenient build (bracketed (parenthesised text)) =
      ofArguments build (String.ofList (bracketed (parenthesised text)))
        [some (.expression text)] [] :=
    ofWord_joinedText (.inr rfl) hwell
  have hexpr := buildExpr_eq_ok_iff.2 hbuild
  rw [hword]
  show (buildExpr build text).map Segment.script = _
  rw [hexpr]
  rfl

theorem ofWord_computedStart (hclosed : Closed .parentheses text)
    (hbuild : build text = .ok (some expr)) :
    ofWord lenient build (bracketed (parenthesised text ++ [':'])) =
      .ok (.range (some (.computed expr)) none none) := by
  have hwell : ∀ a ∈ [some (Argument.expression text), none], ∀ b ∈ a, b.WellFormed := by
    intro a ha b hb
    simp only [List.mem_cons, List.not_mem_nil, or_false] at ha
    rcases ha with rfl | rfl
    · cases hb
      exact hclosed
    · cases hb
  have hword : ofWord lenient build (bracketed (parenthesised text ++ [':'])) =
      ofArguments build (String.ofList (bracketed (parenthesised text ++ [':'])))
        [some (.expression text), none] [':'] :=
    ofWord_joinedText (.inl rfl) hwell
  have hstart (segment : String) : boundOfArgument build segment (some (.expression text)) =
      .ok (some (.computed expr)) := by
    rw [boundOfArgument, buildExpr_eq_ok_iff.2 hbuild]
    rfl
  have hbounds (segment : String) : [some (.expression text), none].mapM
      (boundOfArgument build segment) = .ok [some (.computed expr), none] := by
    rw [List.mapM_cons, hstart]
    rfl
  rw [hword]
  show ([some (.expression text), none].mapM (boundOfArgument build _) >>= fun bounds =>
    Except.ok (range bounds[0]?.join bounds[1]?.join bounds[2]?.join)) = _
  rw [hbounds]
  rfl

end Word

variable {settings : Settings} {k : Int64}

/-- What counts from the end is read as the segment that it is the canonical text of. -/
theorem ofText_negative (hk : 0 < k) :
    ofText settings ("[-" ++ toString k ++ "]") = .ok (.index (-k)) ∧
      ofText settings ("[-" ++ toString k ++ ":]") =
        .ok (.range (some (.literal (-k))) none none) := by
  have hindex : ("[-" ++ toString k ++ "]").toList = (Segment.index (-k)).word := by
    show _ = bracketed (intText (-k).toInt)
    rw [intText_neg hk]
    simp [toList_toString, bracketed]
  have hrange : ("[-" ++ toString k ++ ":]").toList =
      (Segment.range (some (.literal (-k))) none none).word := by
    show _ = bracketed (intText (-k).toInt ++ ':' :: ([] ++ []))
    rw [intText_neg hk]
    simp [toList_toString, bracketed]
  have hindexPasses : (Segment.index (-k)).Passes wellFormed :=
    passes_of_exprs_eq_nil trivial rfl
  have hrangePasses : (Segment.range (some (.literal (-k))) none none).Passes wellFormed :=
    passes_of_exprs_eq_nil trivial rfl
  constructor
  · rw [ofText, hindex, ofWord_word hindexPasses]
    rfl
  · rw [ofText, hrange, ofWord_word hrangePasses]
    rfl

/-- What is computed from the length is read as a script. -/
theorem ofText_lengthMinus (hsettings : settings.priorities = Priority.default) (hk : 0 < k) :
    ofText settings ("[(@.length-" ++ toString k ++ ")]") = .ok (.script (.lengthMinus k)) ∧
      ofText settings ("[(@.length-" ++ toString k ++ "):]") =
        .ok (.range (some (.computed (.lengthMinus k))) none none) := by
  have hname : isIdentifier "length".toList = true := by decide
  have hexponent : ¬EndsInExponent "length".toList := by decide
  have hbuild : Expr.build settings (differenceText "length" k).toList =
      .ok (some (.lengthMinus k)) :=
    Expr.build_difference hsettings hname (Int64.le_of_lt hk) hexponent
  have hclosed : Closed .parentheses (differenceText "length" k).toList := by
    have hfront : Balanced "@.length-".toList := .of_all rfl
    have hbalanced := hfront.append (balanced_intText k.toInt)
    rw [← toList_toString, ← String.toList_append] at hbalanced
    exact hbalanced.parentheses
  have hscript : ("[(@.length-" ++ toString k ++ ")]").toList =
      bracketed (parenthesised (differenceText "length" k).toList) := by
    simp [differenceText, bracketed, parenthesised]
  have hrange : ("[(@.length-" ++ toString k ++ "):]").toList =
      bracketed (parenthesised (differenceText "length" k).toList ++ [':']) := by
    simp [differenceText, bracketed, parenthesised]
  constructor
  · rw [ofText, hscript, ofWord_script hclosed hbuild]
  · rw [ofText, hrange, ofWord_computedStart hclosed hbuild]

end Segment

/-! ## The computed position -/

section Position

variable {size : Nat} {k m : Int64}

/-- A position has two names: it is counted from the front, or back from the end. -/
theorem position_eq_ok {i : Int64} {place : Nat} (hplace : place < size)
    (hi : i.toInt = place ∨ i.toInt = place - size) : position i size = .ok place := by
  have hnonneg : ¬(place : Int) < 0 := by omega
  have hneg : (place - size : Int) < 0 := by omega
  have hback : (size + (place - size) : Int) = place := by omega
  have hrange : 0 ≤ (place : Int) ∧ (place : Int) < size := by omega
  unfold position
  dsimp only
  rcases hi with hi | hi
  · rw [hi, if_neg hnonneg, if_pos hrange, Int.toNat_natCast]
  · rw [hi, if_pos hneg, hback, if_pos hrange, Int.toNat_natCast]

theorem position_of_empty (i : Int64) : position i 0 = .error (.indexOutOfRange i 0) := by
  unfold position
  dsimp only
  refine if_neg fun h => ?_
  split at h <;> omega

/-- The position that the script computes is the one that is counted from the end. -/
theorem position_eq_of_fromEnd (hk : 0 < k) (hle : k.toInt ≤ size)
    (hm : m.toInt = size - k.toInt) :
    position m size = .ok (size - k.toInt.toNat) ∧
      position (-k) size = .ok (size - k.toInt.toNat) := by
  have hpos : 0 < k.toInt := Int64.lt_iff_toInt_lt.1 hk
  have hneg := toInt_neg_of_pos hk
  constructor
  · exact position_eq_ok (by omega) (.inl (by omega))
  · exact position_eq_ok (by omega) (.inr (by omega))

/-- So is the position where a slice starts. -/
theorem Slice.positions_eq_of_fromEnd (hk : 0 < k) (hle : k.toInt ≤ size)
    (hm : m.toInt = size - k.toInt) (stop : Option Int64) (step : Int64) :
    positions size (some m) stop step = positions size (some (-k)) stop step := by
  have hpos : 0 < k.toInt := Int64.lt_iff_toInt_lt.1 hk
  have hneg := toInt_neg_of_pos hk
  have hstart : fromStart size m = fromStart size (-k) := by
    rw [fromStart, fromStart, if_neg (by omega), if_pos (by omega)]
    omega
  rw [positions, positions, Option.map_some, Option.map_some, hstart]

/-- The script computes a number that fits. -/
theorem exists_toInt_eq_sub {length : Int64} (hlength : length.toInt = size) (hk : 0 < k) :
    ∃ m : Int64, m.toInt = size - k.toInt := by
  have hpos : 0 < k.toInt := Int64.lt_iff_toInt_lt.1 hk
  have hlow := Int64.le_toInt k
  have hhigh := Int64.toInt_lt length
  have hlt := Int64.toInt_lt k
  obtain ⟨m, -, hm⟩ := Slice.ofInt?_isSome (size - k.toInt)
    (by have hmin : Int64.minValue.toInt = -2 ^ 63 := rfl; omega)
    (by have hmax : Int64.maxValue.toInt = 2 ^ 63 - 1 := rfl; omega)
  exact ⟨m, hm⟩

end Position

namespace Value.IsSequence

variable {v : Value} {size : Nat} (hv : v.IsSequence size) {indexObjects : Bool} {i : Int64}

include hv

theorem measure_eq {length : Int64} (hlength : length.toInt = size) :
    v.measure = .ok (.integer length) := by
  have hofNat : Int64.ofNat size = length := by
    have hlt := Int64.toInt_lt length
    rw [← Int64.toInt_inj, Int64.toInt_ofNat_of_lt (by omega), hlength]
  cases hv with
  | array items => rw [measure, hofNat]
  | string s => rw [measure, hofNat]

theorem sliceSize_eq : v.sliceSize indexObjects = .ok size := by
  cases hv <;> rfl

theorem element_eq_ok {place : Nat} {x : Value} (h : position i size = .ok place)
    (hx : v.slots[place]? = some x) : v.element indexObjects i = .ok x := by
  cases hv with
  | array items =>
    have hitem : items[place]? = some x := hx
    rw [element, h]
    show Except.ok (items[place]?.getD .null) = _
    rw [hitem]
    rfl
  | string s =>
    rw [slots, List.getElem?_map] at hx
    rw [element, h]
    show Except.ok ((s.toList[place]?.map fun c =>
      Value.string (String.singleton c)).getD .null) = _
    rw [hx]
    rfl

theorem element_eq_error {fault : EvalFault} (h : position i size = .error fault) :
    v.element indexObjects i = .error fault := by
  cases hv with
  | array items => rw [element, h]; rfl
  | string s => rw [element, h]; rfl

end Value.IsSequence

/-! ## Walking the segments -/

namespace Walk

variable (w : Walk) {v : Value} {size : Nat} {length k : Int64}

theorem exists_evaluate_lengthMinus (hv : v.IsSequence size) (hlength : length.toInt = size)
    (hk : 0 < k) : ∃ m : Int64, m.toInt = size - k.toInt ∧
      w.evaluate (.lengthMinus k) v = .ok (.integer m) := by
  obtain ⟨m, hm⟩ := exists_toInt_eq_sub hlength hk
  have hfield : w.evaluate (.field "length") v = .ok (.integer length) := by
    show w.evaluate (.selector .current [.current, .length]) v = _
    rw [evaluate, apply, apply, hv.measure_eq hlength]
    show w.apply [] (.integer length) = _
    rw [apply]
  have hconstant : w.evaluate (.literal (.integer k)) v = .ok (.integer k) := by
    rw [evaluate]
    rfl
  have hdifference : ofInt? (length.toInt - k.toInt) = some m := by
    rw [ofInt?_eq_some_iff, hm, hlength]
  have hsub := @Value.Arithmetic.applyBy_integers .sub (· - ·) Decimal.package rfl length k
  rw [hdifference] at hsub
  exact ⟨m, hm, (w.evaluate_binary_integers .sub hfield hconstant).trans hsub⟩

/-- A script that computes a number finds what the number as an index finds. -/
theorem find_script {expr : Expr} {m : Int64} (h : w.evaluate expr v = .ok (.integer m)) :
    w.find v (.script expr) = w.find v (.index m) := by
  rw [find, find, h]
  show (do return Found.one (← v.element w.indexObjects m)) = _
  cases v.element w.indexObjects m <;> rfl

theorem bound_computed {slot : Slot} {expr : Expr} {m : Int64}
    (h : w.evaluate expr v = .ok (.integer m)) :
    w.bound slot v (some (.computed expr)) = .ok (some m) := by
  rw [Walk.bound, h]
  rfl

/-- What is computed from the length is found where it is counted from the end. -/
theorem find_lengthMinus (hv : v.IsSequence size) (hlength : length.toInt = size) (hk : 0 < k)
    (hle : k ≤ length) :
    (∃ x, v.slots[size - k.toInt.toNat]? = some x ∧
        w.find v (.script (.lengthMinus k)) = .ok (.one x) ∧
        w.find v (.index (-k)) = .ok (.one x)) ∧
      w.find v (.range (some (.computed (.lengthMinus k))) none none) =
        w.find v (.range (some (.literal (-k))) none none) := by
  obtain ⟨m, hm, heval⟩ := w.exists_evaluate_lengthMinus hv hlength hk
  have hpos : 0 < k.toInt := Int64.lt_iff_toInt_lt.1 hk
  have hsize : k.toInt ≤ size := hlength ▸ Int64.le_iff_toInt_le.1 hle
  have hslice : v.sliceSize w.indexObjects = .ok size := hv.sliceSize_eq
  have hslots : v.slots.length = size := Value.length_slots hslice
  constructor
  · obtain ⟨hcomputed, hcounted⟩ := position_eq_of_fromEnd hk hsize hm
    have hx := List.getElem?_eq_getElem (l := v.slots) (i := size - k.toInt.toNat) (by omega)
    refine ⟨_, hx, ?_, ?_⟩
    · rw [w.find_script heval, find, hv.element_eq_ok hcomputed hx]
      rfl
    · rw [find, hv.element_eq_ok hcounted hx]
      rfl
  · have hstop : w.bound .rangeStop v none = .ok none := by rw [Walk.bound]
    have hstep : w.bound .rangeStep v none = .ok none := by rw [Walk.bound]
    have hcounted : w.bound .rangeStart v (some (.literal (-k))) = .ok (some (-k)) := by
      rw [Walk.bound]
    rw [find_range hslice (w.bound_computed heval) hstop hstep,
      find_range hslice hcounted hstop hstep, Slice.positions_eq_of_fromEnd hk hsize hm]

/-- In an empty sequence both fail, and with the same fault: the computed number is the negative
one. -/
theorem find_lengthMinus_of_empty (hv : v.IsSequence 0) (hk : 0 < k) :
    w.find v (.script (.lengthMinus k)) = .error (.indexOutOfRange (-k) 0) ∧
      w.find v (.index (-k)) = .error (.indexOutOfRange (-k) 0) := by
  have hneg := toInt_neg_of_pos hk
  have hpos : 0 < k.toInt := Int64.lt_iff_toInt_lt.1 hk
  obtain ⟨m, hm, heval⟩ := @exists_evaluate_lengthMinus w v 0 0 k hv rfl hk
  obtain rfl : m = -k := by
    rw [← Int64.toInt_inj, hm, hneg]
    omega
  have hindex : w.find v (.index (-k)) = .error (.indexOutOfRange (-k) 0) := by
    rw [find, hv.element_eq_error (position_of_empty (-k))]
    rfl
  exact ⟨(w.find_script heval).trans hindex, hindex⟩

theorem apply_of_find {segment : Segment} {x : Value} (h : w.find v segment = .ok (.one x))
    (rest : List Segment) : w.apply (segment :: rest) v = w.apply rest x := by
  rw [apply_cons, h]
  rfl

theorem apply_of_find_error {segment : Segment} {fault : EvalFault}
    (h : w.find v segment = .error fault) (rest : List Segment) :
    w.apply (segment :: rest) v = .error fault := by
  rw [apply_cons, h]
  rfl

/-- Two slices that find the same are walked on from alike. -/
theorem apply_range_congr {start start' stop stop' step step' : Option Bound}
    (h : w.find v (.range start stop step) = w.find v (.range start' stop' step'))
    (rest : List Segment) :
    w.apply (.range start stop step :: rest) v = w.apply (.range start' stop' step' :: rest) v := by
  rw [apply_cons, apply_cons, h]
  rfl

/-- The number `k` from the end of an array or a string can be counted or computed from the length.
The texts are read as these segments, which find the same element and the same slice, whatever follows
them, if `k` is no greater than the length. In an empty sequence both subscripts fail with the same
fault. The length of a sequence is a 64-bit integer. -/
theorem apply_lengthMinus {settings : Settings} (hsettings : settings.priorities = Priority.default)
    {v : Value} {size : Nat} (hv : v.IsSequence size) {length k : Int64}
    (hlength : length.toInt = size) (hk : 0 < k) :
    (Segment.ofText settings ("[(@.length-" ++ toString k ++ ")]") =
        .ok (.script (.lengthMinus k)) ∧
      Segment.ofText settings ("[-" ++ toString k ++ "]") = .ok (.index (-k)) ∧
      Segment.ofText settings ("[(@.length-" ++ toString k ++ "):]") =
        .ok (.range (some (.computed (.lengthMinus k))) none none) ∧
      Segment.ofText settings ("[-" ++ toString k ++ ":]") =
        .ok (.range (some (.literal (-k))) none none)) ∧
    ∀ (w : Walk) (rest : List Segment),
      (k ≤ length →
        (∃ x, v.slots[size - k.toInt.toNat]? = some x ∧
          w.apply (.script (.lengthMinus k) :: rest) v = w.apply rest x ∧
          w.apply (.index (-k) :: rest) v = w.apply rest x) ∧
        w.apply (.range (some (.computed (.lengthMinus k))) none none :: rest) v =
          w.apply (.range (some (.literal (-k))) none none :: rest) v) ∧
      (size = 0 →
        w.apply (.script (.lengthMinus k) :: rest) v = .error (.indexOutOfRange (-k) 0) ∧
        w.apply (.index (-k) :: rest) v = .error (.indexOutOfRange (-k) 0)) := by
  obtain ⟨hscript, hcomputed⟩ := Segment.ofText_lengthMinus hsettings hk
  obtain ⟨hindex, hcounted⟩ := @Segment.ofText_negative settings k hk
  refine ⟨⟨hscript, hindex, hcomputed, hcounted⟩, fun w rest => ⟨fun hle => ?_, ?_⟩⟩
  · obtain ⟨⟨x, hx, hfind, hfind'⟩, hrange⟩ := w.find_lengthMinus hv hlength hk hle
    exact ⟨⟨x, hx, w.apply_of_find hfind rest, w.apply_of_find hfind' rest⟩,
      w.apply_range_congr hrange rest⟩
  · rintro rfl
    obtain ⟨hfind, hfind'⟩ := w.find_lengthMinus_of_empty hv hk
    exact ⟨w.apply_of_find_error hfind rest, w.apply_of_find_error hfind' rest⟩

/-- The last but one of three. -/
theorem apply_lengthMinus_of_three :
    let items : List Value := [.integer 5, .integer 6, .integer 7]
    Segment.ofText .standard "[(@.length-2)]" = .ok (.script (.lengthMinus 2)) ∧
      Segment.ofText .standard "[-2]" = .ok (.index (-2)) ∧
      (start .standard .null).apply [.script (.lengthMinus 2)] (.array items) =
        .ok (.integer 6) ∧
      (start .standard .null).apply [.index (-2)] (.array items) = .ok (.integer 6) ∧
      (start .standard .null).apply [.script (.lengthMinus 1)] (.string "") =
        .error (.indexOutOfRange (-1) 0) := by
  intro items
  obtain ⟨⟨hscript, hindex, -⟩, happly⟩ := @apply_lengthMinus .standard rfl _ 3 (.array items) 3 2 rfl
    (by decide)
  obtain ⟨-, hempty⟩ := @apply_lengthMinus .standard rfl _ 0 (.string "") 0 1 rfl (by decide)
  obtain ⟨⟨x, hx, hcomputed, hcounted⟩, -⟩ := (happly (start .standard .null) []).1 (by decide)
  have hx : x = .integer 6 := Option.some.inj hx.symm
  subst hx
  refine ⟨hscript, hindex, hcomputed.trans ?_, hcounted.trans ?_,
    ((hempty (start .standard .null) []).2 rfl).1⟩
  · rw [apply]
  · rw [apply]

end Walk

end PathQuery
