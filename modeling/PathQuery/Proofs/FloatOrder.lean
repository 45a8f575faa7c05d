import PathQuery.Proofs.NearestDouble

/-!
# The order of doubles

Every double that is a number has a place in one order, and to compare two of them is to compare
their places. Only the two zeros share a place. A double that is no number has none, and is not even
equal to itself.
-/

namespace PathQuery.Number

open Float.Model Float.Model.UnpackedFloat

/-- A place in the order of doubles. -/
abbrev Place := Int × Int × Int

/-- Places compare part by part. -/
def Place.order (p q : Place) : Ordering :=
  (compare p.1 q.1).then ((compare p.2.1 q.2.1).then (compare p.2.2 q.2.2))

/-- The place of an unpacked double. What is farther from zero has the larger kind, exponent or
mantissa, and below zero all three are negated. -/
def placeOf : UnpackedFloat → Option Place
  | .notANumber => none
  | .infinity .negative => some (-2, 0, 0)
  | .finite .negative m e _ => some (-1, -e, -m)
  | .zero _ => some (0, 0, 0)
  | .finite .positive m e _ => some (1, e, m)
  | .infinity .positive => some (2, 0, 0)

/-- The place of a double, if it is a number. -/
def place? (x : Float) : Option Place :=
  placeOf x.toModel.unpack

/-! ## Places -/

theorem Place.order_swap (p q : Place) : order q p = (order p q).swap := by
  rw [order, order, Ordering.swap_then, Ordering.swap_then, ← Std.OrientedCmp.eq_swap,
    ← Std.OrientedCmp.eq_swap, ← Std.OrientedCmp.eq_swap]

theorem Place.order_eq_iff {p q : Place} : order p q = .eq ↔ p = q := by
  rw [order, Ordering.then_eq_eq, Ordering.then_eq_eq, Std.LawfulEqCmp.compare_eq_iff_eq,
    Std.LawfulEqCmp.compare_eq_iff_eq, Std.LawfulEqCmp.compare_eq_iff_eq, Prod.ext_iff,
    Prod.ext_iff]

theorem compare_natCast (m n : Nat) : compare (m : Int) (n : Int) = compare m n := by
  obtain h | h | h := Nat.lt_trichotomy m n
  · rw [Nat.compare_eq_lt.2 h, Int.compare_eq_lt.2 (by omega)]
  · rw [Nat.compare_eq_eq.2 h, Int.compare_eq_eq.2 (by omega)]
  · rw [Nat.compare_eq_gt.2 h, Int.compare_eq_gt.2 (by omega)]

theorem compare_neg (a b : Int) : compare (-a) (-b) = compare b a := by
  obtain h | h | h := Int.lt_trichotomy b a
  · rw [Int.compare_eq_lt.2 h, Int.compare_eq_lt.2 (by omega)]
  · rw [Int.compare_eq_eq.2 h, Int.compare_eq_eq.2 (by omega)]
  · rw [Int.compare_eq_gt.2 h, Int.compare_eq_gt.2 (by omega)]

/-! ## Comparing -/

theorem compare_eq_order (u v : UnpackedFloat) :
    u.compare v = (do return (← placeOf u).order (← placeOf v)) := by
  cases u with
  | notANumber => cases v <;> rfl
  | infinity s =>
    cases v with
    | infinity t | finite t => cases s <;> cases t <;> rfl
    | notANumber | zero => cases s <;> rfl
  | zero =>
    cases v with
    | infinity t | finite t => cases t <;> rfl
    | notANumber | zero => rfl
  | finite s m e =>
    cases v with
    | notANumber | zero => cases s <;> rfl
    | infinity t => cases s <;> cases t <;> rfl
    | finite t m' e' =>
      cases s <;> cases t
      · show some ((compare e e').then (compare m m')).swap =
          some ((compare (-e) (-e')).then (compare (-m : Int) (-m')))
        rw [Ordering.swap_then, compare_neg, compare_neg, compare_natCast,
          ← Std.OrientedCmp.eq_swap, ← Std.OrientedCmp.eq_swap]
      · rfl
      · rfl
      · show some ((compare e e').then (compare m m')) =
          some ((compare e e').then (compare (m : Int) m'))
        rw [compare_natCast]

variable {x y : Float}

theorem exists_place? (h : x.isNaN = false) : ∃ p, place? x = some p := by
  have hnumber : x.toModel.unpack.isNaN = false := h
  unfold place?
  cases hu : x.toModel.unpack with
  | notANumber =>
    rw [hu] at hnumber
    cases hnumber
  | zero => exact ⟨_, rfl⟩
  | infinity s | finite s => cases s <;> exact ⟨_, rfl⟩

theorem isNaN_of_isFinite (h : x.isFinite = true) : x.isNaN = false := by
  have hfinite : x.toModel.unpack.isFinite = true := h
  show x.toModel.unpack.isNaN = false
  cases hu : x.toModel.unpack with
  | notANumber =>
    rw [hu] at hfinite
    cases hfinite
  | _ => rfl

theorem isNaN_of_place? {p : Place} (h : place? x = some p) : x.isNaN = false := by
  unfold place? at h
  show x.toModel.unpack.isNaN = false
  cases hu : x.toModel.unpack with
  | notANumber =>
    rw [hu] at h
    cases h
  | _ => rfl

/-- Two doubles are equal just when they share a place. -/
theorem beq_iff_place? : (x == y) = true ↔ ∃ p, place? x = some p ∧ place? y = some p := by
  show (x.toModel.unpack.compare y.toModel.unpack == some .eq) = true ↔ _
  rw [compare_eq_order, beq_iff_eq]
  unfold place?
  cases placeOf x.toModel.unpack with
  | none => exact iff_of_false nofun nofun
  | some p =>
    cases placeOf y.toModel.unpack with
    | none => exact iff_of_false nofun nofun
    | some q =>
      show some (p.order q) = some .eq ↔ _
      rw [Option.some.injEq, Place.order_eq_iff]
      constructor
      · rintro rfl
        exact ⟨p, rfl, rfl⟩
      · rintro ⟨r, hp, hq⟩
        exact (Option.some.inj hp).trans (Option.some.inj hq).symm

end PathQuery.Number
