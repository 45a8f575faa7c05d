import PathQuery.Proofs.NearestDouble

/-!
# The form of a double

A finite double other than zero is written in one way only: with 53 bits, or with fewer of them and the
least exponent. Rounding finds this form again, and packing keeps it. So a double stays as it is when zero
is added to it or taken from it, and when it is multiplied or divided by one.
-/

namespace PathQuery.Number

open Float.Model Float.Model.UnpackedFloat

/-- The mantissas and exponents of which finite doubles are made. -/
structure IsCanonical (m : Nat) (e : Int) : Prop where
  mantissa_lt : m < 2 ^ (53 : Nat)
  least_le : -1074 ≤ e
  le_greatest : e ≤ 971
  normal : e ≠ -1074 → 2 ^ (52 : Nat) ≤ m

variable {s : Sign} {m : Nat} {e : Int} {hm : 0 < m}

/-! ## Unpacking -/

/-- Bits with the least exponent are a double with fewer bits, if any of them is set. -/
theorem unpack_of_least {b : BitVec Format.binary64.numBits} (hzero : unpackExponent b = 0#11)
    (hne : unpackMantissa b ≠ 0#52) :
    ∃ hpos, UnpackedFloat.unpack .binary64 b = .finite (Sign.ofBitVec (unpackSign b))
      (unpackMantissa b).toNat (-1074) hpos := by
  have hall : unpackExponent b ≠ -1#11 := by
    rw [hzero]
    decide
  have hleast : ((unpackExponent b).toNat : Int) - (1023 + 52) + 1 = -1074 := by
    rw [hzero]
    rfl
  rw [← hleast]
  exact ⟨_, ((if_neg hall).trans (if_pos hzero)).trans (dif_neg hne)⟩

theorem isCanonical_of_unpack {b : BitVec Format.binary64.numBits}
    (h : UnpackedFloat.unpack .binary64 b = .finite s m e hm) : IsCanonical m e := by
  have hmantissa : (unpackMantissa b).toNat < 2 ^ (52 : Nat) := (unpackMantissa b).isLt
  have hexponent : (unpackExponent b).toNat < 2 ^ (11 : Nat) := (unpackExponent b).isLt
  by_cases hall : unpackExponent b = -1#11
  · have hunpack : UnpackedFloat.unpack .binary64 b = if unpackMantissa b = 0#52 then
        .infinity (Sign.ofBitVec (unpackSign b)) else .notANumber := if_pos hall
    rw [hunpack] at h
    by_cases hnone : unpackMantissa b = 0#52
    · rw [if_pos hnone] at h
      cases h
    · rw [if_neg hnone] at h
      cases h
  by_cases hzero : unpackExponent b = 0#11
  · by_cases hnone : unpackMantissa b = 0#52
    · have hunpack : UnpackedFloat.unpack .binary64 b = .zero (Sign.ofBitVec (unpackSign b)) :=
        ((if_neg hall).trans (if_pos hzero)).trans (dif_pos hnone)
      cases hunpack.symm.trans h
    · obtain ⟨hpos, hunpack⟩ := unpack_of_least hzero hnone
      rw [hunpack, UnpackedFloat.finite.injEq] at h
      obtain ⟨-, rfl, rfl⟩ := h
      exact ⟨Nat.lt_trans hmantissa (by decide), by decide, by decide, fun hne => absurd rfl hne⟩
  · obtain ⟨hpos, hunpack⟩ := unpack_of_exponent hall hzero
    rw [hunpack, UnpackedFloat.finite.injEq] at h
    obtain ⟨-, rfl, rfl⟩ := h
    have hfirst : (1#1 ++ unpackMantissa b).toNat = 2 ^ (52 : Nat) + (unpackMantissa b).toNat := by
      rw [BitVec.toNat_append, Nat.shiftLeft_eq]
      show 2 ^ (52 : Nat) * 1 ||| _ = _
      rw [← Nat.two_pow_add_eq_or_of_lt hmantissa 1]
    have hleast : (unpackExponent b).toNat ≠ 0 := fun h0 => hzero (BitVec.eq_of_toNat_eq h0)
    have hgreatest : (unpackExponent b).toNat ≠ 2047 := fun h0 => hall (BitVec.eq_of_toNat_eq h0)
    exact ⟨by omega, by omega, by omega, fun _ => by omega⟩

/-- Packing and unpacking keep a double. -/
theorem IsCanonical.unpack_pack (h : IsCanonical m e) :
    (Float.Model.pack (.finite s m e hm)).unpack = .finite s m e hm := by
  by_cases hnormal : 2 ^ (52 : Nat) ≤ m
  · have hlog : m.log2 = 52 := (Nat.log2_eq_iff (by omega)).2 ⟨hnormal, h.mantissa_lt⟩
    exact unpack_pack_of_log2 hlog h.least_le h.le_greatest
  · obtain rfl : e = -1074 := Decidable.byContradiction fun hne => hnormal (h.normal hne)
    have hlog : m.log2 < 52 := (Nat.log2_lt (by omega)).2 (by omega)
    have hvec : (BitVec.ofNat 52 m).toNat = m := by
      rw [BitVec.toNat_ofNat]
      exact Nat.mod_eq_of_lt (by omega)
    have hpack : UnpackedFloat.pack .binary64 (.finite s m (-1074) hm) =
        packComponents .binary64 s 0#11 (BitVec.ofNat 52 m) := by
      show (if m.log2 + 1 = 53 then _ else _) = _
      rw [if_neg (by omega)]
    show UnpackedFloat.unpack .binary64 (UnpackedFloat.pack .binary64 (.finite s m (-1074) hm)) = _
    rw [hpack]
    obtain ⟨hpos, hunpack⟩ := unpack_of_least
      (b := packComponents .binary64 s 0#11 (BitVec.ofNat 52 m)) unpackExponent_packComponents (by
        rw [unpackMantissa_packComponents]
        intro hzero
        rw [hzero] at hvec
        have : (0#52).toNat = 0 := rfl
        omega)
    rw [hunpack, UnpackedFloat.finite.injEq]
    refine ⟨?_, ?_, rfl⟩
    · rw [unpackSign_packComponents]
      cases s <;> rfl
    · rw [unpackMantissa_packComponents]
      exact hvec

/-! ## Rounding -/

theorem IsCanonical.targetExponent_eq (h : IsCanonical m e) (hm : 0 < m) :
    Format.binary64.targetExponent (totalExponent m e) = e := by
  obtain ⟨hlt, hlow, -, hnormal⟩ := h
  have hlog : m.log2 < 53 := (Nat.log2_lt (by omega)).2 hlt
  have hlog' : e ≠ -1074 → 52 ≤ m.log2 := fun hne => (Nat.le_log2 (by omega)).2 (hnormal hne)
  show max ((m.log2 : Int) + 1 + e - 53) (-1074) = e
  omega

/-- Shifting a mantissa up by some bits does not change what it is rounded to. -/
theorem IsCanonical.roundWithAccuracy_eq (h : IsCanonical m e) (j : Nat) :
    roundWithAccuracy .binary64 s (m * 2 ^ j) (e - j) .exact = .finite s m e hm := by
  have htarget := h.targetExponent_eq hm
  have htotal : totalExponent (m * 2 ^ j) (e - j) = totalExponent m e := by
    rw [totalExponent, totalExponent, log2_mul_two_pow (by omega)]
    omega
  have hcount : (e - (e - (j : Int))).toNat = j := by omega
  have hexponent : e - (j : Int) + j = e := by omega
  have hfirst : shiftToTargetExponent .binary64 (m * 2 ^ j) (e - j) .exact =
      ((⟨m * 2 ^ j, false, false⟩ : ExtendedMantissa) >>> j, e) := by
    rw [shiftToTargetExponent, htotal, htarget, shiftToExponent, hcount]
    exact congrArg (_, ·) hexponent
  have hrounded := (isTruncated_shiftRight (m * 2 ^ j) j).roundedMantissa_eq (Nat.two_pow_pos j)
  rw [divHalfEven_mul_self (Nat.two_pow_pos j)] at hrounded
  have hzero : (e - e).toNat = 0 := by omega
  refine Number.roundWithAccuracy_eq hfirst ?_ hm
  rw [hrounded, shiftToTargetExponent, htarget, shiftToExponent, hzero]
  exact congrArg (_, ·) (Int.add_zero e)

/-! ## Neutral operands -/

theorem beq_self (hm : 0 < m) : UnpackedFloat.beq (.finite s m e hm) (.finite s m e hm) = true := by
  have hcompare : (compare e e).then (compare m m) = .eq := by simp
  cases s with
  | positive =>
    show (some ((compare e e).then (compare m m)) == some .eq) = true
    rw [hcompare]
    rfl
  | negative =>
    show (some ((compare e e).then (compare m m)).swap == some .eq) = true
    rw [hcompare]
    rfl

/-- Multiplying by one. -/
theorem IsCanonical.mul_one (h : IsCanonical m e) :
    UnpackedFloat.mul .binary64 (.finite s m e hm)
      (.finite .positive (2 ^ (52 : Nat)) (-52) (by decide)) = .finite s m e hm := by
  have hsign : s * .positive = s := by cases s <;> rfl
  show roundWithAccuracy .binary64 (s * .positive) (m * 2 ^ (52 : Nat)) (e - (52 : Nat)) .exact = _
  rw [hsign]
  exact h.roundWithAccuracy_eq 52

/-- A quotient of finite doubles is a quotient of mantissas that is rounded. -/
theorem div_finite {s' : Sign} {m' : Nat} {e' : Int} (hm : 0 < m) (hm' : 0 < m') :
    UnpackedFloat.div .binary64 (.finite s m e hm) (.finite s' m' e' hm') =
      roundWithAccuracy .binary64 (s / s') (divCore .binary64 m e m' e').1
        (divCore .binary64 m e m' e').2.1 (divCore .binary64 m e m' e').2.2 := rfl

/-- Dividing by one. The divisor takes back 52 of the bits by which the mantissa is shifted up first. -/
theorem IsCanonical.div_one (h : IsCanonical m e) :
    UnpackedFloat.div .binary64 (.finite s m e hm)
      (.finite .positive (2 ^ (52 : Nat)) (-52) (by decide)) = .finite s m e hm := by
  have hsign : s / .positive = s := by cases s <;> rfl
  obtain ⟨j, hj⟩ : ∃ j : Nat, min (e - -52) (Format.binary64.targetExponent
      (totalExponent m e - totalExponent (2 ^ (52 : Nat)) (-52))) = e - j := by
    have htarget : max (totalExponent m e - 53) (-1074) = e := h.targetExponent_eq hm
    have hone : totalExponent (2 ^ (52 : Nat)) (-52) = 1 := by decide
    have hless : Format.binary64.targetExponent (totalExponent m e - 1) =
        max (totalExponent m e - 1 - 53) (-1074) := rfl
    rw [hone, hless]
    obtain hsame | hsmaller : max (totalExponent m e - 1 - 53) (-1074) = e ∨
        max (totalExponent m e - 1 - 53) (-1074) = e - 1 := by omega
    · exact ⟨0, by omega⟩
    · exact ⟨1, by omega⟩
  have hcount : (e - -52 - (e - (j : Int))).toNat = j + 52 := by omega
  have hshift : m <<< (j + 52) = m * 2 ^ j * 2 ^ (52 : Nat) := by
    rw [Nat.shiftLeft_eq, Nat.pow_add, Nat.mul_assoc]
  have hdivide : divCore .binary64 m e (2 ^ (52 : Nat)) (-52) = (m * 2 ^ j, e - j, .exact) := by
    rw [divCore]
    simp only [hj, hcount, hshift, Nat.mul_div_cancel _ (Nat.two_pow_pos 52), Nat.mul_mod_left]
    rfl
  rw [div_finite, hdivide, hsign]
  exact h.roundWithAccuracy_eq j

end PathQuery.Number
