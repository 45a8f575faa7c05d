import PathQuery.Proofs.DecimalForm

/-!
# Arithmetic on decimals

Sums and products are rounded only where their digits are not in range, and quotients only where 28 places
do not suffice. With operands of the size of 64-bit integers there is always room for so many places that a
quotient is not rounded to a whole number. So decimals are a package with the documented facts.
-/

namespace PathQuery.Number

/-- A quotient with enough room behind the point is not rounded to a whole number. -/
theorem dvd_of_dvd_divHalfEven {n d scale : Nat} (hd : 0 < d) (hscale : d < 2 * scale)
    (h : scale ∣ divHalfEven (n * scale) d) : d ∣ n := by
  obtain ⟨k, hk⟩ := h
  obtain ⟨hlow, hhigh⟩ := two_mul_divHalfEven hd (n * scale)
  have hproduct : d * divHalfEven (n * scale) d = d * k * scale := by
    rw [hk, Nat.mul_comm scale, Nat.mul_assoc]
  rw [hproduct] at hlow hhigh
  refine ⟨k, ?_⟩
  obtain hless | heq | hmore := Nat.lt_trichotomy n (d * k)
  · have hstep := Nat.mul_le_mul_right scale hless
    rw [Nat.succ_mul] at hstep
    omega
  · exact heq
  · have hstep := Nat.mul_le_mul_right scale hmore
    rw [Nat.succ_mul] at hstep
    omega

namespace Decimal

/-! ## Signs -/

theorem signed_mul (p q : Bool) (m n : Nat) : signed p m * signed q n = signed (p != q) (m * n) := by
  cases p <;> cases q <;> simp [signed, Int.neg_mul, Int.mul_neg]

theorem signed_mul_natCast (p : Bool) (m n : Nat) : signed p m * (n : Int) = signed p (m * n) := by
  cases p <;> simp [signed, Int.neg_mul]

theorem signed_natAbs (n : Int) : signed (decide (n < 0)) n.natAbs = n := by
  unfold signed
  by_cases hneg : n < 0
  · rw [decide_eq_true hneg, if_pos rfl]
    omega
  · rw [decide_eq_false hneg, if_neg Bool.false_ne_true]
    omega

/-! ## Sums and products -/

/-- What is in range needs no rounding. -/
theorem fit_eq_ofParts? {m scale : Nat} (negative : Bool) (hm : m < mantissaLimit)
    (hscale : scale ≤ maxScale) : fit negative m scale = ofParts? negative m scale := by
  have hparts : ofParts? negative (divHalfEven m (10 ^ 0)) (scale - 0) =
      some ⟨negative, m, scale, hm, hscale⟩ := by
    rw [Nat.pow_zero, divHalfEven_one]
    exact dif_pos ⟨hm, hscale⟩
  rw [fit, ofParts?, dif_pos ⟨hm, hscale⟩]
  cases scale with
  | zero => exact hparts
  | succ scale => rw [fitFrom, hparts]

theorem isExactly_fit (negative : Bool) (m scale : Nat) :
    IsExactly (signed negative m) scale (fit negative m scale) := by
  constructor
  · intro hm hscale
    rw [natAbs_signed] at hm
    exact ⟨⟨negative, m, scale, hm, hscale⟩, (fit_eq_ofParts? negative hm hscale).trans
      (dif_pos ⟨hm, hscale⟩), rfl, rfl⟩
  · rintro hm rfl
    rw [natAbs_signed] at hm
    rw [fit, fitFrom, Nat.pow_zero, divHalfEven_one]
    exact dif_neg fun hparts => Nat.not_lt.2 hm hparts.1

variable {a b : Decimal}

theorem isExactly_add (a b : Decimal) :
    IsExactly (a.atScale (max a.scale b.scale) + b.atScale (max a.scale b.scale))
      (max a.scale b.scale) (a.add b) := by
  have hfit := isExactly_fit (decide (a.atScale (max a.scale b.scale) + b.atScale (max a.scale b.scale) < 0))
    (a.atScale (max a.scale b.scale) + b.atScale (max a.scale b.scale)).natAbs (max a.scale b.scale)
  rwa [signed_natAbs] at hfit

theorem atScale_neg (d : Decimal) (scale : Nat) : d.neg.atScale scale = -d.atScale scale := by
  unfold atScale neg
  cases d.negative <;> simp

theorem isExactly_sub (a b : Decimal) :
    IsExactly (a.atScale (max a.scale b.scale) - b.atScale (max a.scale b.scale))
      (max a.scale b.scale) (a.sub b) := by
  have hadd := isExactly_add a b.neg
  rwa [atScale_neg, ← Int.sub_eq_add_neg] at hadd

theorem isExactly_mul (h : a.unscaled * b.unscaled ≠ 0) :
    IsExactly (a.unscaled * b.unscaled) (a.scale + b.scale) (a.mul b) := by
  have ha : a.unscaled ≠ 0 := fun hzero => h (by rw [hzero, Int.zero_mul])
  have hb : b.unscaled ≠ 0 := fun hzero => h (by rw [hzero, Int.mul_zero])
  rw [mul, if_neg (not_or.2 ⟨unscaled_ne_zero.1 ha, unscaled_ne_zero.1 hb⟩), unscaled, unscaled, signed_mul]
  exact isExactly_fit _ _ _

theorem exists_mul_of_zero (h : a.unscaled * b.unscaled = 0) :
    ∃ r, a.mul b = some r ∧ r.unscaled = 0 := by
  have hmantissa : a.mantissa = 0 ∨ b.mantissa = 0 := by
    rw [← natAbs_unscaled, ← natAbs_unscaled, Int.natAbs_eq_zero, Int.natAbs_eq_zero]
    exact Int.mul_eq_zero.1 h
  exact ⟨zero, if_pos hmantissa, rfl⟩

/-! ## Whole decimals -/

theorem toInt?_eq_some {d : Decimal} {n : Int} :
    d.toInt? = some n ↔ d.unscaled = n * (10 ^ d.scale : Nat) := by
  have hpos : 0 < 10 ^ d.scale := Nat.pow_pos (by decide)
  have hsigned : signed d.negative (d.mantissa / 10 ^ d.scale) * (10 ^ d.scale : Nat) =
      signed d.negative (d.mantissa / 10 ^ d.scale * 10 ^ d.scale) := signed_mul_natCast ..
  constructor
  · intro h
    unfold toInt? at h
    split at h
    · next hrest =>
      have hn : signed d.negative (d.mantissa / 10 ^ d.scale) = n := Option.some.inj h
      rw [← hn, hsigned, Nat.div_mul_cancel (Nat.dvd_of_mod_eq_zero hrest)]
      rfl
    · cases h
  · intro h
    have hmantissa : d.mantissa = n.natAbs * 10 ^ d.scale := by
      rw [← natAbs_unscaled, h, Int.natAbs_mul, Int.natAbs_natCast]
    have hwhole : signed d.negative (d.mantissa / 10 ^ d.scale) = n := by
      refine Int.eq_of_mul_eq_mul_right (Int.natCast_ne_zero.2 (Nat.ne_of_gt hpos)) (hsigned.trans ?_)
      rw [hmantissa, Nat.mul_div_cancel _ hpos, ← hmantissa]
      exact h
    rw [toInt?, if_pos (hmantissa ▸ Nat.mul_mod_left ..)]
    exact congrArg some hwhole

/-! ## Quotients -/

/-- Dropping zeros keeps the number. -/
theorem mul_of_dropZeros {m scale m' scale' : Nat} (h : dropZeros m scale = (m', scale')) :
    scale' ≤ scale ∧ m = m' * 10 ^ (scale - scale') := by
  induction scale generalizing m with
  | zero =>
    cases h
    exact ⟨Nat.le_refl 0, (Nat.mul_one _).symm⟩
  | succ scale ih =>
    rw [dropZeros] at h
    split at h
    · next hzero =>
      obtain ⟨hle, hm⟩ := ih h
      refine ⟨Nat.le_succ_of_le hle, ?_⟩
      rw [Nat.succ_sub hle, Nat.pow_succ, ← Nat.mul_assoc, ← hm]
      omega
    · cases h
      exact ⟨Nat.le_refl _, by rw [Nat.sub_self, Nat.pow_zero, Nat.mul_one]⟩

/-- A quotient that can be written with so many places is found, and its zeros are dropped. -/
theorem divTo_of_exact (negative : Bool) {n d m scale places : Nat} (hd : 0 < d)
    (hexact : n * 10 ^ scale = m * d) (hm : m < mantissaLimit) (hplaces : scale ≤ places) :
    divTo negative n d places = ofParts? negative (dropZeros m scale).1 (dropZeros m scale).2 := by
  induction places with
  | zero =>
    obtain rfl := Nat.le_zero.1 hplaces
    rw [Nat.pow_zero, Nat.mul_one] at hexact
    rw [divTo, hexact, divHalfEven_mul_self hd]
    rfl
  | succ places ih =>
    obtain ⟨j, hj⟩ := Nat.exists_eq_add_of_le hplaces
    have hquotient : divHalfEven (n * 10 ^ (places + 1)) d = m * 10 ^ j := by
      rw [hj, Nat.pow_add, ← Nat.mul_assoc, hexact, Nat.mul_right_comm, divHalfEven_mul_self hd]
    rw [divTo, hquotient]
    by_cases hroom : m * 10 ^ j < mantissaLimit
    · have hdrop := dropZeros_mul m scale j
      rw [← hj] at hdrop
      simp only [hroom, if_true, hdrop]
    · have hpos : j ≠ 0 := by
        rintro rfl
        rw [Nat.pow_zero, Nat.mul_one] at hroom
        exact hroom hm
      simp only [hroom, if_false]
      exact ih (by omega)

/-- A quotient that can be written with 28 places is exact and does not end in zeros. -/
theorem exists_div_of_exact {n : Int} {scale : Nat} (hb : b.unscaled ≠ 0) (hn : n.natAbs < mantissaLimit)
    (hscale : scale ≤ maxScale) (hreduced : IsReduced n.natAbs scale)
    (h : a.unscaled * (10 ^ (b.scale + scale) : Nat) = n * b.unscaled * (10 ^ a.scale : Nat)) :
    ∃ r, a.div b = some r ∧ r.IsScaled n scale := by
  have hbne := unscaled_ne_zero.1 hb
  have hpos : 0 < 10 ^ a.scale := Nat.pow_pos (by decide)
  rw [div, if_neg hbne]
  by_cases hane : a.mantissa = 0
  · have hzero : a.unscaled = 0 := Int.natAbs_eq_zero.1 (a.natAbs_unscaled.trans hane)
    rw [hzero, Int.zero_mul] at h
    obtain hproduct | hpower := Int.mul_eq_zero.1 h.symm
    · obtain rfl : n = 0 := (Int.mul_eq_zero.1 hproduct).resolve_right hb
      obtain rfl : scale = 0 := hreduced.resolve_right fun h => h rfl
      exact ⟨zero, if_pos hane, rfl, rfl⟩
    · exact absurd (Int.natCast_eq_zero.1 hpower) (Nat.ne_of_gt hpos)
  · -- both sides have the same digits, and hence the same sign
    have hdigits : a.mantissa * 10 ^ b.scale * 10 ^ scale = n.natAbs * (b.mantissa * 10 ^ a.scale) := by
      have habs := congrArg Int.natAbs h
      rw [Int.natAbs_mul, Int.natAbs_mul, Int.natAbs_mul, natAbs_unscaled, natAbs_unscaled,
        Int.natAbs_natCast, Int.natAbs_natCast, Nat.pow_add] at habs
      rw [Nat.mul_assoc, habs, Nat.mul_assoc]
    have hd : 0 < b.mantissa * 10 ^ a.scale := Nat.mul_pos (Nat.pos_of_ne_zero hbne) hpos
    have hsign : signed (a.negative != b.negative) n.natAbs = n := by
      have hcancel : b.unscaled * (10 ^ a.scale : Nat) ≠ 0 :=
        Int.mul_ne_zero hb (Int.natCast_ne_zero.2 (Nat.ne_of_gt hpos))
      have hboth : ((a.negative != b.negative) != b.negative) = a.negative := by
        cases a.negative <;> cases b.negative <;> rfl
      refine Int.eq_of_mul_eq_mul_right hcancel ?_
      rw [← Int.mul_assoc n, ← h, unscaled, unscaled, signed_mul_natCast, signed_mul, signed_mul_natCast,
        hboth, ← hdigits, Nat.pow_add, Nat.mul_assoc]
    rw [if_neg hane, divTo_of_exact _ hd hdigits hn hscale, dropZeros_of_isReduced hreduced]
    exact ⟨⟨_, n.natAbs, scale, hn, hscale⟩, dif_pos ⟨hn, hscale⟩, hsign, rfl⟩

/-- A quotient that leaves something over is no whole number if there is room for it. The divisor is less
than two units of the last place. -/
theorem exists_ofParts?_of_dropZeros (negative : Bool) {n d places m scale : Nat} (hd : 0 < d)
    (hdvd : ¬d ∣ n) (hplaces : places ≤ maxScale) (hle : d ≤ 10 ^ places)
    (hroom : divHalfEven (n * 10 ^ places) d < mantissaLimit)
    (hdrop : dropZeros (divHalfEven (n * 10 ^ places) d) places = (m, scale)) :
    ∃ r, ofParts? negative m scale = some r ∧ r.toInt? = none := by
  obtain ⟨hscale, hm⟩ := mul_of_dropZeros hdrop
  have hparts : m < mantissaLimit ∧ scale ≤ maxScale := by
    refine ⟨Nat.lt_of_le_of_lt ?_ hroom, Nat.le_trans hscale hplaces⟩
    rw [hm]
    exact Nat.le_mul_of_pos_right m (Nat.pow_pos (by decide))
  refine ⟨⟨negative, m, scale, hparts.1, hparts.2⟩, dif_pos hparts, if_neg fun hwhole => hdvd ?_⟩
  have hpos : 0 < 10 ^ places := Nat.pow_pos (by decide)
  refine dvd_of_dvd_divHalfEven hd (show d < 2 * 10 ^ places by omega) ?_
  obtain ⟨k, hk⟩ := Nat.dvd_of_mod_eq_zero hwhole
  dsimp only at hk
  rw [hm, hk, Nat.mul_right_comm, ← Nat.pow_add, Nat.add_sub_cancel' hscale]
  exact Nat.dvd_mul_right _ _

/-- A place is only given up if the quotient is so large that the divisor is small. -/
theorem exists_divTo (negative : Bool) {n d places : Nat} (hn : n < 2 ^ (65 : Nat)) (hd : 0 < d)
    (hdvd : ¬d ∣ n) (hplaces : places ≤ maxScale) (hle : d ≤ 10 ^ places) :
    ∃ r, divTo negative n d places = some r ∧ r.toInt? = none := by
  induction places with
  | zero =>
    obtain rfl : d = 1 := by
      rw [Nat.pow_zero] at hle
      omega
    exact absurd (Nat.one_dvd n) hdvd
  | succ places ih =>
    rw [divTo]
    dsimp only
    split
    · next hroom => exact exists_ofParts?_of_dropZeros negative hd hdvd hplaces hle hroom rfl
    · next hroom =>
      refine ih (by omega) ?_
      have hlow := (two_mul_divHalfEven hd (n * 10 ^ (places + 1))).2
      have hlarge := Nat.mul_le_mul_left d (Nat.le_of_not_lt hroom)
      have hpos : 0 < 10 ^ places := Nat.pow_pos (by decide)
      have hsmall := Nat.mul_le_mul_right (10 ^ places) (Nat.le_of_lt hn)
      have hplace : n * 10 ^ (places + 1) = n * 10 ^ places * 10 := by
        rw [Nat.pow_succ, Nat.mul_assoc]
      unfold mantissaLimit at hlarge
      omega

/-- The quotient of whole numbers with up to 65 bits is whole only if nothing is left over. -/
theorem exists_div_of_not_dvd (ha : a.scale = 0) (hb : b.scale = 0) (hbne : b.unscaled ≠ 0)
    (halt : a.unscaled.natAbs < 2 ^ (65 : Nat)) (hblt : b.unscaled.natAbs < 2 ^ (65 : Nat))
    (hdvd : ¬b.unscaled ∣ a.unscaled) : ∃ r, a.div b = some r ∧ r.toInt? = none := by
  rw [← Int.natAbs_dvd_natAbs] at hdvd
  rw [natAbs_unscaled] at halt hblt
  rw [natAbs_unscaled, natAbs_unscaled] at hdvd
  have hane : a.mantissa ≠ 0 := fun hzero => hdvd (hzero ▸ Nat.dvd_zero _)
  have hmantissa := unscaled_ne_zero.1 hbne
  have hplaces : b.mantissa ≤ 10 ^ maxScale := Nat.le_trans (Nat.le_of_lt hblt) (by decide)
  rw [div, if_neg hmantissa, if_neg hane, ha, hb, Nat.pow_zero, Nat.mul_one, Nat.mul_one]
  exact exists_divTo _ halt (Nat.pos_of_ne_zero hmantissa) hdvd (Nat.le_refl _) hplaces

/-! ## The package -/

/-- The decimals that this library computes with have the documented facts. -/
theorem documented : package.Documented where
  ofFloat_whole := HoldsWhole.isExactly_ofFloat
  ofFloat_reduced := isReduced_of_ofFloat
  add := isExactly_add
  sub := isExactly_sub
  mul := isExactly_mul
  mul_zero := exists_mul_of_zero
  div_exact := exists_div_of_exact
  div_inexact := exists_div_of_not_dvd
  toInt?_eq_some := toInt?_eq_some
  beq_toFloat := beq_toFloat

end Decimal

end PathQuery.Number
