import PathQuery.Proofs.NearestDouble

/-!
# Floats that are whole

A finite float is a mantissa times a power of two. `HoldsWhole` says for which of them this is a whole
number, and for which one. The functions that look for whole floats and cut off fractions agree with it.
-/

namespace PathQuery.Number

open Float.Model Float.Model.UnpackedFloat

/-- A finite float that is a whole number, and which one. -/
inductive HoldsWhole (x : Float) : Int → Prop
  | zero {s : Sign} : x.toModel.unpack = .zero s → HoldsWhole x 0
  | finite {s : Sign} {m n : Nat} {e : Int} {hm : 0 < m} : x.toModel.unpack = .finite s m e hm →
      m * 2 ^ e.toNat = n * 2 ^ (-e).toNat → HoldsWhole x (s.apply n)

variable {m n : Nat} {e : Int}

theorem isWholeAt_of_eq (h : m * 2 ^ e.toNat = n * 2 ^ (-e).toNat) : isWholeAt m e = true := by
  rw [isWholeAt, Bool.or_eq_true, decide_eq_true_iff, beq_iff_eq]
  obtain he | he := Int.lt_or_le e 0
  · have hzero : e.toNat = 0 := by omega
    rw [hzero, Nat.pow_zero, Nat.mul_one] at h
    rw [h]
    exact .inr (Nat.mul_mod_left n _)
  · exact .inl he

theorem wholePart_of_eq (h : m * 2 ^ e.toNat = n * 2 ^ (-e).toNat) : wholePart m e = n := by
  rw [wholePart]
  obtain he | he := Int.lt_or_le e 0
  · have hzero : e.toNat = 0 := by omega
    rw [hzero, Nat.pow_zero, Nat.mul_one] at h
    rw [if_neg (by omega), h, Nat.mul_div_cancel _ (Nat.two_pow_pos _)]
  · have hzero : (-e).toNat = 0 := by omega
    rw [hzero, Nat.pow_zero, Nat.mul_one] at h
    rw [if_pos he, h]

variable {x : Float} {k : Int}

theorem HoldsWhole.isWhole (h : HoldsWhole x k) : isWhole x = true := by
  cases h with
  | zero hx => rw [Number.isWhole, hx]
  | finite hx hvalue =>
    rw [Number.isWhole, hx]
    exact isWholeAt_of_eq hvalue

theorem HoldsWhole.truncate (h : HoldsWhole x k) : truncate x = k := by
  cases h with
  | zero hx => rw [Number.truncate, hx]
  | @finite s m n e hm hx hvalue =>
    rw [Number.truncate, hx]
    cases s with
    | positive => exact congrArg Int.ofNat (wholePart_of_eq hvalue)
    | negative => exact congrArg (fun n : Nat => -(n : Int)) (wholePart_of_eq hvalue)

/-! ## Integers as floats -/

theorem signOf_apply_roundBits {n : Int} (hn : n ≠ 0) :
    (signOf n).apply (roundBits n.natAbs) = nearest n := by
  obtain hneg | hpos := Int.lt_or_gt_of_ne hn
  · rw [signOf, if_pos hneg, nearest, Int.sign_eq_neg_one_of_neg hneg, Int.neg_one_mul]
    rfl
  · rw [signOf, if_neg (Int.lt_asymm hpos), nearest, Int.sign_eq_one_of_pos hpos, Int.one_mul]
    rfl

/-- An integer becomes the whole float that is nearest to it. -/
theorem holdsWhole_toFloat (n : Int64) : HoldsWhole (toFloat n) (nearest n.toInt) := by
  by_cases hn : n = 0
  · subst hn
    exact .zero unpack_toFloat_zero
  · have hstands := standsFor_toFloat hn
    rw [← signOf_apply_roundBits fun h => hn (Int64.toInt_inj.1 h)]
    generalize hu : (toFloat n).toModel.unpack = u at hstands
    cases hstands with
    | finite hm hlog hlow hhigh hvalue => exact .finite hu hvalue

end PathQuery.Number
