import PathQuery.Proofs.DecimalDigits
import PathQuery.Proofs.FloatValue

/-!
# Short decimals

A double that is read from up to 15 digits, of which the first is not a four, becomes the decimal with
these digits, and from there the same double. On the way back the decimal is split at the point, put
together again and rounded to its places; the errors of these operations are too small to reach another
last digit.
-/

namespace PathQuery.Number

open Float.Model Float.Model.UnpackedFloat

/-! ## Powers of ten -/

theorem hasValue_ofNat {n : Nat} (hn : n ≠ 0) (hlog : n.log2 < 900) (hround : roundBits n = n) :
    HasValue (Float.ofNat n) n := by
  have hstands := standsFor_ofNat hn hlog
  rw [hround] at hstands
  exact hstands.isNormal

theorem hasValue_ofNat_of_lt {n : Nat} (hn : n ≠ 0) (hlt : n < 2 ^ (53 : Nat)) :
    HasValue (Float.ofNat n) n :=
  hasValue_ofNat hn (Nat.lt_trans ((Nat.log2_lt hn).2 hlt) (by decide)) (roundBits_of_lt hlt)

section Powers

variable {k : Nat}

/-- Powers of ten up to the 22nd are exact. -/
theorem hasValue_ofNat_ten_pow (hk : k ≤ 22) : HasValue (Float.ofNat (10 ^ k)) (10 ^ k : Nat) := by
  have hpos : 10 ^ k ≠ 0 := Nat.pos_iff_ne_zero.1 (Nat.pow_pos (by decide))
  have hle : 10 ^ k ≤ 10 ^ (22 : Nat) := Nat.pow_le_pow_right (by decide) hk
  have hlog : (10 ^ k).log2 < 74 := (Nat.log2_lt hpos).2 (Nat.lt_of_le_of_lt hle (by decide))
  have hfives : 5 ^ k < 2 ^ (53 : Nat) :=
    Nat.lt_of_le_of_lt (Nat.pow_le_pow_right (by decide) hk) (by decide)
  have hround := roundBits_mul_two_pow hfives k
  rw [← Nat.mul_pow] at hround
  exact hasValue_ofNat hpos (by omega) hround

theorem toModel_tenPower : ∀ k : Fin 23,
    (Decimal.tenPower 5 k 1.0 10.0).toModel = (Float.ofNat (10 ^ k.val)).toModel := by
  decide +kernel

/-- Squaring a double gives the same powers. -/
theorem hasValue_tenPower (hk : k ≤ 22) : HasValue (Decimal.tenPower 5 k 1.0 10.0) (10 ^ k : Nat) := by
  unfold HasValue
  rw [toModel_tenPower ⟨k, Nat.lt_succ_of_le hk⟩]
  exact hasValue_ofNat_ten_pow hk

theorem toModel_exactPower : ∀ k : Fin Float.exactlyRepresentablePowersOfTen.size,
    Float.exactlyRepresentablePowersOfTen[k].toModel = (Float.ofNat (10 ^ k.val)).toModel := by
  decide +kernel

theorem hasValue_exactPower (hk : k < Float.exactlyRepresentablePowersOfTen.size) :
    HasValue Float.exactlyRepresentablePowersOfTen[k] (10 ^ k : Nat) := by
  have hmodel : Float.exactlyRepresentablePowersOfTen[k].toModel = (Float.ofNat (10 ^ k)).toModel :=
    toModel_exactPower ⟨k, hk⟩
  unfold HasValue
  rw [hmodel]
  exact hasValue_ofNat_ten_pow (Nat.le_of_lt_succ hk)

end Powers

/-! ## Reading digits -/

/-- Few digits are read by one division. -/
theorem exists_scientific {p places : Nat} (hp : p ≠ 0) (hlt : p < 2 ^ (53 : Nat)) (hpos : 0 < places)
    (hle : places ≤ 22) :
    ∃ x y, scientific p (-places) = x / y ∧ HasValue x p ∧ HasValue y (10 ^ places : Nat) := by
  have hneg : ¬(0 : Int) ≤ -places := by omega
  have hcount : (- -(places : Int)).toNat = places := by omega
  rw [scientific, if_neg hneg, hcount, Float.ofScientific, dif_pos ⟨hlt, hle⟩]
  exact ⟨_, _, rfl, (standsFor_toUInt64 hp hlt).isNormal, hasValue_exactPower _⟩

/-! ## From halvings to tenths -/

namespace Decimal

/-- One halving. A bit is lost only where there are more than 93 of them. -/
theorem exists_absorbHalves_succ (count m : Nat) (e : Int) :
    ∃ m' e', absorbHalves (count + 1) (m, e) = absorbHalves count (m', e') ∧ e ≤ e' ∧ e' ≤ e + 1 ∧
      (m' : ℚ) * 5 ^ count * 10 ^ e' ≤ m * 5 ^ (count + 1) * 10 ^ e ∧
      m * 5 ^ (count + 1) * 10 ^ e * (1 - 2 ^ (-93 : Int)) ≤ (m' : ℚ) * 5 ^ count * 10 ^ e' := by
  have hpos : (0 : ℚ) < 5 ^ count * 10 ^ e := mul_pos (pow_pos (by norm_num) _) (zpow_pos (by norm_num) _)
  have hloss : (1 : ℚ) - 2 ^ (-93 : Int) ≤ 1 := by norm_num
  have hhalf (q : ℚ) : q * 5 ^ count * 10 ^ (e + 1) = 2 * q * 5 * (5 ^ count * 10 ^ e) := by
    rw [zpow_add_one₀ (by norm_num)]
    ring
  have hwhole : (m : ℚ) * 5 ^ (count + 1) * 10 ^ e = m * 5 * (5 ^ count * 10 ^ e) := by
    rw [pow_succ]
    ring
  rw [absorbHalves, hwhole]
  by_cases heven : m % 2 = 0
  · have hm : (2 : ℚ) * (m / 2 : Nat) = m := by
      have hdouble : 2 * (m / 2) = m := by omega
      exact_mod_cast hdouble
    refine ⟨m / 2, e + 1, if_pos heven, by omega, by omega, ?_, ?_⟩
    · rw [hhalf, hm]
    · rw [hhalf, hm]
      exact mul_le_of_le_one_right (by positivity) hloss
  rw [if_neg heven]
  by_cases hroom : 5 * m < mantissaLimit
  · have hfive : ((5 * m : Nat) : ℚ) * 5 ^ count * 10 ^ e = m * 5 * (5 ^ count * 10 ^ e) := by
      push_cast
      ring
    refine ⟨5 * m, e, if_pos hroom, by omega, by omega, ?_, ?_⟩
    · rw [hfive]
    · rw [hfive]
      exact mul_le_of_le_one_right (by positivity) hloss
  · -- the last bit is lost
    have hm : (2 : ℚ) * (m / 2 : Nat) = m - 1 := by
      have hdouble : 2 * (m / 2) + 1 = m := by omega
      rw [eq_sub_iff_add_eq]
      exact_mod_cast hdouble
    have hlarge : (2 : ℚ) ^ (93 : Nat) ≤ m := by
      have hbits : 2 ^ (93 : Nat) ≤ m := by
        unfold mantissaLimit at hroom
        omega
      exact_mod_cast hbits
    refine ⟨m / 2, e + 1, if_neg hroom, by omega, by omega, ?_, ?_⟩
    · rw [hhalf, hm]
      exact mul_le_mul_of_nonneg_right (by linarith) hpos.le
    · rw [hhalf, hm, mul_right_comm]
      refine mul_le_mul_of_nonneg_right ?_ hpos.le
      norm_num
      linarith

/-- All halvings. -/
theorem exists_absorbHalves (count m : Nat) (e : Int) :
    ∃ m' e', absorbHalves count (m, e) = (m', e') ∧ e ≤ e' ∧ e' ≤ e + count ∧
      (m' : ℚ) * 10 ^ e' ≤ m * 5 ^ count * 10 ^ e ∧
      m * 5 ^ count * 10 ^ e * (1 - 2 ^ (-93 : Int)) ^ count ≤ (m' : ℚ) * 10 ^ e' := by
  induction count generalizing m e with
  | zero => exact ⟨m, e, rfl, by omega, by omega, by simp, by simp⟩
  | succ count ih =>
    obtain ⟨m₁, e₁, hstep, hlow, hhigh, hupper, hlower⟩ := exists_absorbHalves_succ count m e
    obtain ⟨m', e', hrest, hlow', hhigh', hupper', hlower'⟩ := ih m₁ e₁
    refine ⟨m', e', hstep.trans hrest, by omega, by omega, hupper'.trans hupper, ?_⟩
    have hless : (0 : ℚ) ≤ (1 - 2 ^ (-93 : Int)) ^ count := pow_nonneg (by norm_num) count
    rw [pow_succ' (1 - 2 ^ (-93 : Int) : ℚ), ← mul_assoc]
    exact (mul_le_mul_of_nonneg_right hlower hless).trans hlower'

end Decimal

/-- Halvings and tenths of one number. -/
theorem five_pow_mul_ten_zpow {e : Int} (he : e ≤ 0) : (5 : ℚ) ^ (-e).toNat * 10 ^ e = 2 ^ e := by
  have hcount : ((-e).toNat : Int) = -e := Int.toNat_of_nonneg (by omega)
  have hten : (10 : ℚ) ^ e = 5 ^ e * 2 ^ e := by
    rw [← mul_zpow]
    norm_num
  rw [← zpow_natCast, hcount, hten, ← mul_assoc, ← zpow_add₀ (by norm_num), neg_add_cancel, zpow_zero,
    one_mul]

theorem div_bounds {n d a b : Nat} (hd : 0 < d) (hlow : d ≤ 2 ^ a * n) (hhigh : n ≤ 2 ^ b * d) :
    2 ^ (-a : Int) ≤ (n : ℚ) / d ∧ (n : ℚ) / d ≤ 2 ^ (b : Int) := by
  have hpos : (0 : ℚ) < d := Nat.cast_pos.2 hd
  have hlow' : (d : ℚ) ≤ 2 ^ a * n := by exact_mod_cast hlow
  have hhigh' : (n : ℚ) ≤ 2 ^ b * d := by exact_mod_cast hhigh
  rw [le_div_iff₀ hpos, div_le_iff₀ hpos, zpow_neg, inv_mul_le_iff₀ (two_zpow_pos _), zpow_natCast,
    zpow_natCast]
  exact ⟨hlow', hhigh'⟩

section Short

variable {p places : Nat}

/-- A short number is neither very small nor very large. -/
theorem IsShort.bounds (hp : IsShort p places) :
    2 ^ (-74 : Int) ≤ (p : ℚ) / (10 ^ places : Nat) ∧ (p : ℚ) / (10 ^ places : Nat) ≤ 2 ^ (50 : Int) := by
  have hpower : 10 ^ places ≤ 2 ^ (74 : Nat) :=
    Nat.le_trans (Nat.pow_le_pow_right (by decide) hp.scale_le) (by decide)
  have hone : 0 < 10 ^ places := Nat.pow_pos (by decide)
  have hfirst := hp.mantissa_pos
  have hlast := hp.mantissa_lt
  exact div_bounds (a := 74) (b := 50) hone (by omega) (by omega)

theorem IsShort.isModerate (hp : IsShort p places) : IsModerate (p / (10 ^ places : Nat)) := by
  obtain ⟨hleast, hgreatest⟩ := hp.bounds
  constructor
  · exact le_trans (zpow_le_zpow_right₀ one_le_two (by decide)) hleast
  · exact le_trans hgreatest (zpow_le_zpow_right₀ one_le_two (by decide))

/-- The unit of the last of 53 bits. -/
theorem IsShort.exponent_bounds (hp : IsShort p places) {m : Nat} {e : Int} (hlog : m.log2 = 52)
    (hnear : IsNear (p / (10 ^ places : Nat)) (m * 2 ^ e)) : -128 ≤ e ∧ e < 0 := by
  obtain ⟨hleast, hgreatest⟩ := hp.bounds
  generalize (p : ℚ) / (10 ^ places : Nat) = q at hleast hgreatest hnear
  obtain ⟨hbelow, habove⟩ := abs_le.1 hnear
  norm_num at hleast hgreatest hbelow habove
  have hne : m ≠ 0 := by
    rintro rfl
    exact absurd hlog (by decide)
  have hbounds : -75 - 1 ≤ m.log2 + e ∧ m.log2 + e ≤ 51 := by
    refine Number.exponent_bounds hne ?_ ?_ le_rfl ?_
    · norm_num
      linarith
    · norm_num
      linarith
    · exact mul_lt_mul_of_pos_right (lt_add_one _) (two_zpow_pos e)
  omega

/-- What is lost when a double becomes tenths adds little to what was lost when it was rounded. -/
theorem isClose_of_isNear {m scale : Nat} {r : ℚ} (hnear : IsNear (p / (10 ^ places : Nat)) r)
    (hupper : (m : ℚ) / (10 ^ scale : Nat) ≤ r)
    (hlower : r * (1 - 2 ^ (-86 : Int)) ≤ (m : ℚ) / (10 ^ scale : Nat)) :
    Decimal.IsClose m scale p places := by
  have hplaces : (0 : ℚ) < (10 ^ places : Nat) := Nat.cast_pos.2 (Nat.pow_pos (by decide))
  have hscale : (0 : ℚ) < (10 ^ scale : Nat) := Nat.cast_pos.2 (Nat.pow_pos (by decide))
  have hquotient : (0 : ℚ) ≤ p / (10 ^ places : Nat) := div_nonneg (Nat.cast_nonneg p) hplaces.le
  obtain ⟨hbelow, habove⟩ := abs_le.1 hnear
  norm_num at hbelow habove hlower
  have hless : 9007000000000000 * ((m : ℚ) / (10 ^ scale : Nat)) ≤
      9007000000000001 * (p / (10 ^ places : Nat)) := by
    push_cast
    push_cast at hupper
    linarith
  have hmore : 9006999999999999 * ((p : ℚ) / (10 ^ places : Nat)) ≤
      9007000000000000 * (m / (10 ^ scale : Nat)) := by
    push_cast
    linarith
  rw [← mul_div_assoc, ← mul_div_assoc, div_le_div_iff₀ hscale hplaces, mul_assoc, mul_assoc] at hless
  rw [← mul_div_assoc, ← mul_div_assoc, div_le_div_iff₀ hplaces hscale, mul_assoc, mul_assoc] at hmore
  constructor
  · exact_mod_cast hless
  · exact_mod_cast hmore

/-- Up to 128 halvings lose little. -/
theorem exists_absorbHalves_of_le {m : Nat} {e : Int} (hleast : -128 ≤ e) (he : e ≤ 0) :
    ∃ (m' scale : Nat), Decimal.absorbHalves (-e).toNat (m, e) = (m', -(scale : Int)) ∧
      (m' : ℚ) / (10 ^ scale : Nat) ≤ m * 2 ^ e ∧
      m * 2 ^ e * (1 - 2 ^ (-86 : Int)) ≤ (m' : ℚ) / (10 ^ scale : Nat) := by
  obtain ⟨m', e', habsorb, -, he', hupper, hlower⟩ := Decimal.exists_absorbHalves (-e).toNat m e
  obtain ⟨scale, rfl⟩ : ∃ scale : Nat, e' = -scale := ⟨(-e').toNat, by omega⟩
  have hscale : (10 : ℚ) ^ (-scale : Int) = ((10 ^ scale : Nat) : ℚ)⁻¹ := by
    rw [Nat.cast_pow, zpow_neg, zpow_natCast]
    rfl
  rw [mul_assoc (m : ℚ), five_pow_mul_ten_zpow he, hscale, ← div_eq_mul_inv] at hupper hlower
  refine ⟨m', scale, habsorb, hupper, ?_⟩
  have hcount : ((-e).toNat : ℚ) ≤ 128 := by
    have hle : (-e).toNat ≤ 128 := by omega
    exact_mod_cast hle
  have hless : (1 : ℚ) - 2 ^ (-86 : Int) ≤ (1 - 2 ^ (-93 : Int)) ^ (-e).toNat := by
    have hbernoulli := one_add_mul_le_pow (show (-2 : ℚ) ≤ -2 ^ (-93 : Int) by norm_num) (-e).toNat
    rw [sub_eq_add_neg 1 (2 ^ (-93 : Int) : ℚ)]
    refine le_trans ?_ hbernoulli
    norm_num
    linarith
  have hpos : (0 : ℚ) ≤ m * 2 ^ e := mul_nonneg (Nat.cast_nonneg m) (two_zpow_pos e).le
  exact (mul_le_mul_of_nonneg_left hless hpos).trans hlower

/-- A double near to a short number becomes this number. -/
theorem IsShort.exists_ofFloat (hp : IsShort p places) {s : Sign} {x : Float} {r : ℚ}
    (hx : IsNormal s r x.toModel.unpack) (hnear : IsNear (p / (10 ^ places : Nat)) r) :
    ∃ d, Decimal.ofFloat x = some d ∧ d.negative = isMinus s ∧ d.mantissa = p ∧ d.scale = places := by
  generalize hu : x.toModel.unpack = u at hx
  cases hx with
  | @finite m e hm hlog hlow hhigh hvalue =>
    subst hvalue
    obtain ⟨hleast, hgreatest⟩ := hp.exponent_bounds hlog hnear
    obtain ⟨m', scale, habsorb, hupper, hlower⟩ := exists_absorbHalves_of_le hleast hgreatest.le
    have hclose := isClose_of_isNear hnear hupper hlower
    have hbinary := Decimal.ofBinary_of_nonpos (isMinus s) hgreatest.le habsorb
    have hzero : (-(scale : Int)).toNat = 0 := by omega
    have hcount : (- -(scale : Int)).toNat = scale := by omega
    have hlimit : p < mantissaLimit := Nat.lt_trans hp.mantissa_lt (by decide)
    have hplaces : places ≤ maxScale := Nat.le_trans hp.scale_le (by decide)
    rw [hzero, hcount, Decimal.absorbTens, Option.bind_some, Decimal.settle_of_isClose hclose hp]
      at hbinary
    exact ⟨⟨isMinus s, p, places, hlimit, hplaces⟩,
      (Decimal.ofFloat_finite hu).trans (hbinary.trans (dif_pos ⟨hlimit, hplaces⟩)), rfl, rfl, rfl⟩

/-! ## From digits to a double -/

theorem HasValue.zero_add {x : Float} {v : ℚ} (hx : HasValue x v) : HasValue (Float.ofNat 0 + x) v := by
  have hadd : (Float.ofNat 0 + x).toModel =
      Float.Model.pack (UnpackedFloat.add .binary64 (.zero .positive) x.toModel.unpack) := rfl
  unfold HasValue at hx
  generalize x.toModel.unpack = u at hx hadd
  cases hx with
  | finite hm hlog hlow hhigh hvalue =>
    exact (IsNormal.finite hm hlog hlow hhigh hvalue).hasValue hadd

theorem IsShort.rest_ne (hp : IsShort p places) : p % 10 ^ places ≠ 0 := by
  intro hzero
  have hten : 10 ∣ 10 ^ places := Dvd.intro_left _ (Nat.pow_pred_mul hp.scale_pos)
  exact hp.last_ne (Nat.mod_eq_zero_of_dvd (Nat.dvd_trans hten (Nat.dvd_of_mod_eq_zero hzero)))

/-- The part after the point is as exact as a double can be. -/
theorem IsShort.exists_fraction (hp : IsShort p places) :
    ∃ r, HasValue (Float.ofNat (p % 10 ^ places) / Float.ofNat (10 ^ places)) r ∧
      IsNear ((p % 10 ^ places : Nat) / (10 ^ places : Nat)) r := by
  have hrest := hp.rest_ne
  have hlast := hp.mantissa_lt
  have hle := Nat.mod_le p (10 ^ places)
  have hone : 0 < 10 ^ places := Nat.pow_pos (by decide)
  have hless := Nat.mod_lt p hone
  have hpower : 10 ^ places ≤ 2 ^ (100 : Nat) :=
    Nat.le_trans (Nat.pow_le_pow_right (by decide) hp.scale_le) (by decide)
  refine HasValue.div (hasValue_ofNat_of_lt hrest (by omega)) (hasValue_ofNat_ten_pow hp.scale_le) ?_
  exact div_bounds (a := 100) (b := 100) hone (by omega) (by omega)

/-- Two roundings, of the part after the point and of the sum. -/
theorem IsShort.exists_sum (hp : IsShort p places) :
    ∃ r, HasValue (Float.ofNat (p / 10 ^ places) +
        Float.ofNat (p % 10 ^ places) / Float.ofNat (10 ^ places)) r ∧
      |r - p / (10 ^ places : Nat)| ≤ 5 / 2 * 2 ^ (-53 : Int) * (p / (10 ^ places : Nat)) := by
  obtain ⟨q, hq, hfraction⟩ := hp.exists_fraction
  have hunit : (0 : ℚ) < (10 ^ places : Nat) := Nat.cast_pos.2 (Nat.pow_pos (by decide))
  have hsplit : (p : ℚ) / (10 ^ places : Nat) =
      (p / 10 ^ places : Nat) + (p % 10 ^ places : Nat) / (10 ^ places : Nat) := by
    rw [div_eq_iff hunit.ne', add_mul, div_mul_cancel₀ _ hunit.ne']
    exact_mod_cast (Nat.div_add_mod' p (10 ^ places)).symm
  have hwhole : p / 10 ^ places < 2 ^ (53 : Nat) :=
    Nat.lt_of_le_of_lt (Nat.div_le_self ..) (Nat.lt_trans hp.mantissa_lt (by decide))
  have hpos := div_nonneg (Nat.cast_nonneg (α := ℚ) (p % 10 ^ places)) hunit.le
  have hone : ((p % 10 ^ places : Nat) : ℚ) / (10 ^ places : Nat) ≤ 1 :=
    div_le_one_of_le₀ (Nat.cast_le.2 (Nat.mod_lt p (Nat.pow_pos (by decide))).le) hunit.le
  rw [hsplit]
  obtain ⟨hbelow, habove⟩ := abs_le.1 hfraction
  generalize ((p % 10 ^ places : Nat) : ℚ) / (10 ^ places : Nat) = t at hpos hone hbelow habove
  generalize p / 10 ^ places = w at hwhole
  norm_num at hbelow habove
  obtain rfl | hw := Nat.eq_zero_or_pos w
  · refine ⟨q, hq.zero_add, abs_le.2 ?_⟩
    norm_num
    constructor <;> linarith
  · have hfirst : (1 : ℚ) ≤ w := Nat.one_le_cast.2 hw
    have hlast : (w : ℚ) ≤ 9007199254740992 := by exact_mod_cast hwhole.le
    have hmoderate : IsModerate (w + q) := by
      constructor <;> norm_num <;> linarith
    obtain ⟨r, hr, hsum⟩ := (hasValue_ofNat_of_lt (by omega) hwhole).add hq hmoderate
    obtain ⟨hless, hmore⟩ := abs_le.1 hsum
    norm_num at hless hmore
    refine ⟨r, hr, abs_le.2 ?_⟩
    norm_num
    constructor <;> linarith

/-- With the rounding of the product, the error is still too small to reach another whole number. -/
theorem IsShort.exists_product (hp : IsShort p places) :
    ∃ v, HasValue ((Float.ofNat (p / 10 ^ places) +
        Float.ofNat (p % 10 ^ places) / Float.ofNat (10 ^ places)) *
          Decimal.tenPower 5 places 1.0 10.0) v ∧
      v < 2 ^ (52 : Int) ∧ |v - p| < 1 / 2 := by
  obtain ⟨r, hr, hsum⟩ := hp.exists_sum
  have hunit : (0 : ℚ) < (10 ^ places : Nat) := Nat.cast_pos.2 (Nat.pow_pos (by decide))
  have hfirst : (1 : ℚ) ≤ p := Nat.one_le_cast.2 hp.mantissa_pos
  have hlast : (p : ℚ) ≤ 1000000000000000 := by exact_mod_cast Nat.le_of_lt hp.mantissa_lt
  have hproduct : |r * (10 ^ places : Nat) - p| ≤ 5 / 2 * 2 ^ (-53 : Int) * p := by
    calc |r * (10 ^ places : Nat) - p|
      _ = |r - p / (10 ^ places : Nat)| * (10 ^ places : Nat) := by
        rw [← abs_of_pos hunit, ← abs_mul, sub_mul, abs_of_pos hunit, div_mul_cancel₀ _ hunit.ne']
      _ ≤ 5 / 2 * 2 ^ (-53 : Int) * (p / (10 ^ places : Nat)) * (10 ^ places : Nat) :=
        mul_le_mul_of_nonneg_right hsum hunit.le
      _ = 5 / 2 * 2 ^ (-53 : Int) * p := by rw [mul_assoc, div_mul_cancel₀ _ hunit.ne']
  have hpower := hr.mul (hasValue_tenPower hp.scale_le)
  generalize r * (10 ^ places : Nat) = q at hproduct hpower
  obtain ⟨hbelow, habove⟩ := abs_le.1 hproduct
  norm_num at hbelow habove
  have hmoderate : IsModerate q := by
    constructor <;> norm_num <;> linarith
  obtain ⟨v, hv, hnear⟩ := hpower hmoderate
  obtain ⟨hless, hmore⟩ := abs_le.1 hnear
  norm_num at hless hmore
  refine ⟨v, hv, ?_, abs_lt.2 ⟨?_, ?_⟩⟩
  · norm_num
    linarith
  · linarith
  · linarith

theorem HasValue.unpack_div {x x' y y' : Float} {a b : ℚ} (hx : HasValue x a) (hx' : HasValue x' a)
    (hy : HasValue y b) (hy' : HasValue y' b) : (x / y).toModel.unpack = (x' / y').toModel.unpack := by
  show (Float.Model.pack (UnpackedFloat.div .binary64 x.toModel.unpack y.toModel.unpack)).unpack =
    (Float.Model.pack (UnpackedFloat.div .binary64 x'.toModel.unpack y'.toModel.unpack)).unpack
  rw [IsNormal.unique hx hx', IsNormal.unique hy hy']

end Short

/-- Rounded to its places, a short decimal is divided as it was when it was read. -/
theorem IsShort.unpack_magnitude {d : Decimal} (hd : IsShort d.mantissa d.scale) :
    d.magnitude.toModel.unpack = (scientific d.mantissa (-d.scale)).toModel.unpack := by
  have hmantissa := hd.mantissa_pos
  have hlast := hd.mantissa_lt
  obtain ⟨v, hv, hsmall, hnear⟩ := hd.exists_product
  obtain ⟨x, y, hread, hx, hy⟩ := exists_scientific hmantissa.ne' (by omega) hd.scale_pos hd.scale_le
  have hmagnitude : d.magnitude = roundHalfAway ((Float.ofNat (d.mantissa / 10 ^ d.scale) +
      Float.ofNat (d.mantissa % 10 ^ d.scale) / Float.ofNat (10 ^ d.scale)) *
        Decimal.tenPower 5 d.scale 1.0 10.0) / Decimal.tenPower 5 d.scale 1.0 10.0 :=
    if_neg hd.rest_ne
  rw [hmagnitude, hv.roundHalfAway hsmall hnear, hread]
  exact (hasValue_ofNat_of_lt hmantissa.ne' (by omega)).unpack_div hx (hasValue_tenPower hd.scale_le) hy

/-! ## There and back -/

theorem IsNormal.isFinite {s : Sign} {x : Float} {v : ℚ} (hx : IsNormal s v x.toModel.unpack) :
    x.isFinite = true := by
  show x.toModel.unpack.isFinite = true
  generalize x.toModel.unpack = u at hx
  cases hx with
  | finite => rfl

theorem unpack_neg (x : Float) :
    (-x).toModel.unpack = (Float.Model.pack x.toModel.unpack.neg).unpack := rfl

theorem HasValue.neg {x : Float} {v : ℚ} (hx : HasValue x v) :
    IsNormal .negative v (-x).toModel.unpack := by
  unfold HasValue at hx
  rw [unpack_neg]
  generalize x.toModel.unpack = u at hx
  cases hx with
  | finite hm hlog hlow hhigh hvalue =>
    have hneg : IsNormal .negative v (UnpackedFloat.finite .negative _ _ hm) :=
      .finite hm hlog hlow hhigh hvalue
    exact hneg.unpack_pack.symm ▸ hneg

/-- A float that is read from a short number, with either sign. -/
def HoldsShort (x : Float) (p places : Nat) : Prop :=
  IsShort p places ∧ (x = scientific p (-places) ∨ x = -scientific p (-places))

/-- A float that is read from a short number is equal to the double of its decimal. -/
theorem HoldsShort.beq_toFloat {p places : Nat} {x : Float} (h : HoldsShort x p places) {d : Decimal}
    (hd : Decimal.ofFloat x = some d) : (x == d.toFloat) = true := by
  obtain ⟨hp, hx⟩ := h
  have hmantissa := hp.mantissa_lt
  obtain ⟨y, z, hread, hy, hz⟩ :=
    exists_scientific hp.mantissa_pos.ne' (by omega) hp.scale_pos hp.scale_le
  obtain ⟨r, hr, hnear⟩ := hy.div hz hp.isModerate
  rw [← hread] at hr
  obtain rfl | rfl := hx
  · obtain ⟨d', hd', hsign, rfl, rfl⟩ := hp.exists_ofFloat hr hnear
    obtain rfl : d' = d := Option.some.inj (hd'.symm.trans hd)
    rw [Decimal.toFloat, hsign]
    exact beq_of_unpack_eq hp.unpack_magnitude.symm hr.isFinite
  · obtain ⟨d', hd', hsign, rfl, rfl⟩ := hp.exists_ofFloat hr.neg hnear
    obtain rfl : d' = d := Option.some.inj (hd'.symm.trans hd)
    have hunpack : (-scientific d'.mantissa (-d'.scale)).toModel.unpack =
        (-d'.magnitude).toModel.unpack := by
      rw [unpack_neg, unpack_neg, hp.unpack_magnitude]
    rw [Decimal.toFloat, hsign]
    exact beq_of_unpack_eq hunpack hr.neg.isFinite

end PathQuery.Number
