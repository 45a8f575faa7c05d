import Mathlib.Algebra.Order.Field.Power
import Mathlib.Data.Nat.Cast.Order.Field
import Mathlib.Tactic.FieldSimp
import Mathlib.Tactic.Linarith
import Mathlib.Tactic.Positivity
import Mathlib.Tactic.Ring
import PathQuery.Proofs.FloatForm

/-!
# The numbers of doubles

A double with 53 bits stands for a rational number, and there is no other double for it. Sums, products
and quotients of positive doubles differ from the exact results by at most `2 ^ (-53)` of these, as long as
they are neither very small nor very large.
-/

namespace PathQuery.Number

open Float.Model Float.Model.UnpackedFloat

/-- A double with 53 bits, and the number it stands for, the sign apart. -/
inductive IsNormal (s : Sign) (v : ℚ) : UnpackedFloat → Prop
  | finite {m : Nat} {e : Int} (hm : 0 < m) : m.log2 = 52 → -1074 ≤ e → e ≤ 971 →
      (m : ℚ) * 2 ^ e = v → IsNormal s v (.finite s m e hm)

variable {s : Sign} {v : ℚ} {u u' : UnpackedFloat}

theorem two_zpow_pos (e : Int) : (0 : ℚ) < 2 ^ e :=
  zpow_pos two_pos e

theorem IsNormal.unpack_pack (h : IsNormal s v u) : (Float.Model.pack u).unpack = u := by
  cases h with
  | finite hm hlog hlow hhigh hvalue => exact unpack_pack_of_log2 hlog hlow hhigh

/-- The bounds of 53 bits. -/
theorem bounds_of_log2 {m : Nat} (hlog : m.log2 = 52) : (2 : ℚ) ^ (52 : Int) ≤ m ∧ (m : ℚ) < 2 ^ (53 : Int) := by
  have hne : m ≠ 0 := by
    rintro rfl
    exact absurd hlog (by decide)
  obtain ⟨hlow, hhigh⟩ := (Nat.log2_eq_iff hne).1 hlog
  constructor
  · exact_mod_cast hlow
  · exact_mod_cast hhigh

/-- Of the exponents of equal numbers neither is greater. -/
theorem exponent_le_of_value_eq {m m' : Nat} {e e' : Int} (hlog : m.log2 = 52) (hlog' : m'.log2 = 52)
    (h : (m : ℚ) * 2 ^ e = m' * 2 ^ e') : e ≤ e' := by
  obtain ⟨hlow, -⟩ := bounds_of_log2 hlog
  obtain ⟨-, hhigh⟩ := bounds_of_log2 hlog'
  have hless : (2 : ℚ) ^ (52 + e) < 2 ^ (53 + e') := by
    calc (2 : ℚ) ^ (52 + e)
      _ = 2 ^ (52 : Int) * 2 ^ e := zpow_add₀ two_ne_zero ..
      _ ≤ m * 2 ^ e := mul_le_mul_of_nonneg_right hlow (two_zpow_pos e).le
      _ = m' * 2 ^ e' := h
      _ < 2 ^ (53 : Int) * 2 ^ e' := mul_lt_mul_of_pos_right hhigh (two_zpow_pos e')
      _ = 2 ^ (53 + e') := (zpow_add₀ two_ne_zero ..).symm
  have hexponent := (zpow_lt_zpow_iff_right₀ one_lt_two).1 hless
  omega

theorem IsNormal.unique (h : IsNormal s v u) (h' : IsNormal s v u') : u = u' := by
  cases h with
  | @finite m e hm hlog hlow hhigh hvalue =>
    cases h' with
    | @finite m' e' hm' hlog' hlow' hhigh' hvalue' =>
      have heq := hvalue.trans hvalue'.symm
      obtain rfl : e = e' := Int.le_antisymm (exponent_le_of_value_eq hlog hlog' heq)
        (exponent_le_of_value_eq hlog' hlog heq.symm)
      obtain rfl : m = m' := Nat.cast_injective (mul_right_cancel₀ (two_zpow_pos e).ne' heq)
      rfl

theorem StandsFor.isNormal {n : Nat} (h : StandsFor s n u) : IsNormal s n u := by
  cases h with
  | @finite m e hm hlog hlow hhigh hvalue =>
    refine .finite hm hlog hlow (by omega) ?_
    have hcast : (m : ℚ) * 2 ^ (e.toNat : Int) = n * 2 ^ ((-e).toNat : Int) := by
      simp only [zpow_natCast]
      exact_mod_cast hvalue
    have he : e = e.toNat - (-e).toNat := by omega
    rw [he, zpow_sub₀ two_ne_zero, ← mul_div_assoc, hcast]
    exact mul_div_cancel_right₀ _ (two_zpow_pos _).ne'

/-! ## Rounding -/

/-- Neither very small nor very large. -/
def IsModerate (v : ℚ) : Prop :=
  2 ^ (-100 : Int) ≤ v ∧ v ≤ 2 ^ (100 : Int)

/-- How far a double may be from what it was rounded from. -/
def IsNear (v r : ℚ) : Prop :=
  |r - v| ≤ 2 ^ (-53 : Int) * v

theorem isTruncated_accuracyOfFraction {n d : Nat} (hd : 0 < d) :
    IsTruncated n d (.ofMantissaAndAccuracy (n / d) (accuracyOfFraction (n % d) d)) := by
  have hlt : n % d < d := Nat.mod_lt n hd
  rw [accuracyOfFraction]
  by_cases hzero : n % d = 0
  · rw [if_pos hzero]
    exact ⟨rfl, by simp [ExtendedMantissa.ofMantissaAndAccuracy, hzero]; omega,
      by simp [ExtendedMantissa.ofMantissaAndAccuracy, hzero]⟩
  · rw [if_neg hzero]
    obtain hlt | heq | hgt := Nat.lt_trichotomy (2 * (n % d)) d
    · rw [Nat.compare_eq_lt.2 hlt]
      refine ⟨rfl, iff_of_false Bool.false_ne_true (by omega), iff_of_true rfl ?_⟩
      rw [Nat.mod_eq_of_lt hlt]
      omega
    · rw [Nat.compare_eq_eq.2 heq]
      refine ⟨rfl, iff_of_true rfl heq.ge, iff_of_false Bool.false_ne_true ?_⟩
      rw [heq, Nat.mod_self]
      exact not_not.2 rfl
    · rw [Nat.compare_eq_gt.2 hgt]
      refine ⟨rfl, iff_of_true rfl hgt.le, iff_of_true rfl ?_⟩
      rw [Nat.mod_eq_sub_mod hgt.le, Nat.mod_eq_of_lt (by omega)]
      omega

/-- The exponent of a number of which the first bits are known. -/
theorem exponent_bounds {m : Nat} {e least greatest : Int} (hm : m ≠ 0) (hleast : 2 ^ least ≤ v)
    (hgreatest : v ≤ 2 ^ greatest) (hlow : (m : ℚ) * 2 ^ e ≤ v) (hhigh : v < (m + 1) * 2 ^ e) :
    least - 1 ≤ m.log2 + e ∧ m.log2 + e ≤ greatest := by
  have hfirst : (2 : ℚ) ^ (m.log2 : Int) ≤ m := by
    rw [zpow_natCast]
    exact_mod_cast Nat.log2_self_le hm
  have hlast : (m : ℚ) + 1 ≤ 2 ^ (m.log2 + 1 : Int) := by
    have hlt : m + 1 ≤ 2 ^ (m.log2 + 1) := Nat.lt_log2_self
    have hcast : ((m.log2 : Int) + 1) = ((m.log2 + 1 : Nat) : Int) := rfl
    rw [hcast, zpow_natCast]
    exact_mod_cast hlt
  constructor
  · have hless : (2 : ℚ) ^ least < 2 ^ (m.log2 + 1 + e : Int) := by
      calc (2 : ℚ) ^ least
        _ ≤ v := hleast
        _ < (m + 1) * 2 ^ e := hhigh
        _ ≤ 2 ^ (m.log2 + 1 : Int) * 2 ^ e := mul_le_mul_of_nonneg_right hlast (two_zpow_pos e).le
        _ = 2 ^ (m.log2 + 1 + e : Int) := (zpow_add₀ two_ne_zero ..).symm
    have hexponent := (zpow_lt_zpow_iff_right₀ one_lt_two).1 hless
    omega
  · have hle : (2 : ℚ) ^ (m.log2 + e : Int) ≤ 2 ^ greatest := by
      calc (2 : ℚ) ^ (m.log2 + e : Int)
        _ = 2 ^ (m.log2 : Int) * 2 ^ e := zpow_add₀ two_ne_zero ..
        _ ≤ m * 2 ^ e := mul_le_mul_of_nonneg_right hfirst (two_zpow_pos e).le
        _ ≤ v := hlow
        _ ≤ 2 ^ greatest := hgreatest
    exact (zpow_le_zpow_iff_right₀ one_lt_two).1 hle

/-- A quotient that has been rounded is at most half a unit away. -/
theorem abs_divHalfEven_sub_le {d : Nat} (hd : 0 < d) (n : Nat) :
    |(divHalfEven n d : ℚ) - n / d| ≤ 1 / 2 := by
  obtain ⟨hlow, hhigh⟩ := two_mul_divHalfEven hd n
  have hpos : (0 : ℚ) < d := Nat.cast_pos.2 hd
  have hlow' : 2 * (n : ℚ) ≤ 2 * (d * divHalfEven n d) + d := by exact_mod_cast hlow
  have hhigh' : 2 * ((d : ℚ) * divHalfEven n d) ≤ 2 * n + d := by exact_mod_cast hhigh
  have hquotient : (n : ℚ) = n / d * d := (div_mul_cancel₀ _ hpos.ne').symm
  rw [abs_le]
  constructor
  · refine le_of_mul_le_mul_right ?_ hpos
    linarith
  · refine le_of_mul_le_mul_right ?_ hpos
    linarith

theorem isNormal_of_roundedMantissa (s : Sign) {m : Nat} {e e' : Int} {accuracy : Accuracy}
    {em : ExtendedMantissa} (hfirst : shiftToTargetExponent .binary64 m e accuracy = (em, e'))
    (hlow : 2 ^ (52 : Nat) ≤ em.roundedMantissa) (hhigh : em.roundedMantissa ≤ 2 ^ (53 : Nat))
    (he : -1074 ≤ e') (he' : e' ≤ 970) :
    IsNormal s (em.roundedMantissa * 2 ^ e') (roundWithAccuracy .binary64 s m e accuracy) := by
  obtain ⟨hlog, hpos, hround⟩ | ⟨heq, hround⟩ :=
    roundWithAccuracy_of_roundedMantissa s hfirst hlow hhigh he
  · rw [hround]
    exact .finite _ hlog he (by omega) rfl
  · rw [hround, heq]
    refine .finite _ Nat.log2_two_pow (by omega) (by omega) ?_
    rw [zpow_add_one₀ two_ne_zero]
    push_cast
    ring

theorem mantissa_ofMantissaAndAccuracy (m : Nat) (accuracy : Accuracy) :
    (ExtendedMantissa.ofMantissaAndAccuracy m accuracy).mantissa = m := by
  cases accuracy with
  | exact => rfl
  | inexact order => cases order <;> rfl

/-- Half a unit of the last of 53 bits. -/
theorem isNear_of_half {n d r : Nat} {e : Int} (hv : (n : ℚ) / d * 2 ^ e = v)
    (hr : |(r : ℚ) - n / d| ≤ 1 / 2) (hbits : 2 ^ (52 : Nat) ≤ n / d) : IsNear v (r * 2 ^ e) := by
  have hfirst : (2 : ℚ) ^ (52 : Int) ≤ n / d := by
    refine le_trans ?_ Nat.cast_div_le
    exact_mod_cast hbits
  have hpos := two_zpow_pos e
  have hhalf : (2 : ℚ) ^ (-53 : Int) * 2 ^ (52 : Int) = 1 / 2 := by norm_num
  calc |(r : ℚ) * 2 ^ e - v|
    _ = |(r : ℚ) - n / d| * 2 ^ e := by rw [← hv, ← sub_mul, abs_mul, abs_of_pos hpos]
    _ ≤ 2 ^ (-53 : Int) * 2 ^ (52 : Int) * 2 ^ e := by
      rw [hhalf]
      exact mul_le_mul_of_nonneg_right hr hpos.le
    _ ≤ 2 ^ (-53 : Int) * (n / d) * 2 ^ e :=
      mul_le_mul_of_nonneg_right (mul_le_mul_of_nonneg_left hfirst (two_zpow_pos _).le) hpos.le
    _ = 2 ^ (-53 : Int) * v := by rw [mul_assoc, hv]

theorem exponent_bounds_of_div {n d : Nat} {e : Int} (hd : 0 < d) (hne : n / d ≠ 0)
    (hvalue : (n : ℚ) / d * 2 ^ e = v) (hv : IsModerate v) :
    -101 ≤ (n / d).log2 + e ∧ (n / d).log2 + e ≤ 100 := by
  have hless : n < (n / d + 1) * d := (Nat.div_lt_iff_lt_mul hd).1 (Nat.lt_succ_self _)
  refine exponent_bounds hne hv.1 hv.2 ?_ ?_
  · rw [← hvalue]
    exact mul_le_mul_of_nonneg_right Nat.cast_div_le (two_zpow_pos e).le
  · rw [← hvalue]
    refine mul_lt_mul_of_pos_right ?_ (two_zpow_pos e)
    rw [div_lt_iff₀ (Nat.cast_pos.2 hd)]
    exact_mod_cast hless

theorem div_mul_two_pow (n d k : Nat) (e : Int) :
    (n : ℚ) / (d * 2 ^ k : Nat) * 2 ^ (k + e : Int) = n / d * 2 ^ e := by
  have hpower : ((2 ^ k : Nat) : ℚ) = 2 ^ (k : Int) := by
    rw [zpow_natCast]
    exact_mod_cast rfl
  rw [Nat.cast_mul, hpower, zpow_add₀ two_ne_zero, ← mul_assoc, div_mul_eq_div_div,
    div_mul_cancel₀ _ (two_zpow_pos k).ne']

/-- Rounding a positive number of which at least 53 bits are known, and whether anything follows. -/
theorem exists_roundWithAccuracy (s : Sign) {m n d : Nat} {e : Int} {accuracy : Accuracy} (hd : 0 < d)
    (htruncated : IsTruncated n d (.ofMantissaAndAccuracy m accuracy)) (hlog : 52 ≤ m.log2)
    (hvalue : (n : ℚ) / d * 2 ^ e = v) (hv : IsModerate v) :
    ∃ r, IsNormal s r (roundWithAccuracy .binary64 s m e accuracy) ∧ IsNear v r := by
  have hm : m = n / d := (mantissa_ofMantissaAndAccuracy m accuracy).symm.trans htruncated.mantissa
  have hne : m ≠ 0 := by
    rintro rfl
    exact absurd hlog (by decide)
  obtain ⟨hleast, hgreatest⟩ := exponent_bounds_of_div hd (hm ▸ hne) hvalue hv
  rw [← hm] at hleast hgreatest
  have hfirst := shiftToTargetExponent_of_le_log2 (e := e) hlog (by omega) accuracy
  have hdivisor : 0 < d * 2 ^ (m.log2 - 52) := Nat.mul_pos hd (Nat.two_pow_pos _)
  have hrounded := (htruncated.shiftRight hd (m.log2 - 52)).roundedMantissa_eq hdivisor
  obtain ⟨hlow, hhigh⟩ : 2 ^ (52 : Nat) ≤ n / (d * 2 ^ (m.log2 - 52)) ∧
      n / (d * 2 ^ (m.log2 - 52)) < 2 ^ (53 : Nat) := by
    have hbounds := quotient_bounds (j := 0) hne hlog
    rwa [Nat.pow_zero, Nat.mul_one, Nat.add_zero, hm, Nat.div_div_eq_div_mul, ← hm] at hbounds
  have hround := divHalfEven_bounds n (d * 2 ^ (m.log2 - 52))
  refine ⟨_, isNormal_of_roundedMantissa s hfirst (by omega) (by omega) (by omega) (by omega), ?_⟩
  have hexponent : (m.log2 + e - 52 : Int) = ((m.log2 - 52 : Nat) : Int) + e := by omega
  rw [hrounded, hexponent]
  exact isNear_of_half ((div_mul_two_pow ..).trans hvalue) (abs_divHalfEven_sub_le hdivisor n) hlow

/-! ## Operations -/

/-- A positive double with 53 bits, and the number it stands for. -/
def HasValue (x : Float) (v : ℚ) : Prop :=
  IsNormal .positive v x.toModel.unpack

variable {x y : Float} {a b : ℚ} {m m' : Nat} {e e' : Int}

theorem IsNormal.hasValue (h : IsNormal .positive v u) (hx : x.toModel = Float.Model.pack u) :
    HasValue x v := by
  show IsNormal .positive v x.toModel.unpack
  rwa [hx, h.unpack_pack]

theorem HasValue.exists_finite (hx : HasValue x v) :
    ∃ m e hm, x.toModel.unpack = .finite .positive m e hm ∧ m.log2 = 52 ∧ (m : ℚ) * 2 ^ e = v := by
  unfold HasValue at hx
  generalize x.toModel.unpack = u at hx
  cases hx with
  | finite hm hlog hlow hhigh hvalue => exact ⟨_, _, hm, rfl, hlog, hvalue⟩

theorem two_pow_le_of_log2 (hm : 0 < m) (hlog : m.log2 = 52) : 2 ^ (52 : Nat) ≤ m :=
  ((Nat.log2_eq_iff (by omega)).1 hlog).1

theorem exists_roundWithAccuracy_exact (s : Sign) (hlog : 52 ≤ m.log2) (hvalue : (m : ℚ) * 2 ^ e = v)
    (hv : IsModerate v) :
    ∃ r, IsNormal s r (roundWithAccuracy .binary64 s m e .exact) ∧ IsNear v r := by
  have hexact : IsTruncated m 1 (.ofMantissaAndAccuracy m .exact) := isTruncated_exact m
  refine exists_roundWithAccuracy s Nat.one_pos hexact hlog ?_ hv
  rwa [Nat.cast_one, div_one]

/-- The product of two mantissas has more than 53 bits. -/
theorem HasValue.mul (hx : HasValue x a) (hy : HasValue y b) (hv : IsModerate (a * b)) :
    ∃ r, HasValue (x * y) r ∧ IsNear (a * b) r := by
  obtain ⟨m, e, hm, hxu, hlog, hvalue⟩ := hx.exists_finite
  obtain ⟨m', e', hm', hyu, hlog', hvalue'⟩ := hy.exists_finite
  have hmul : (x * y).toModel =
      Float.Model.pack (roundWithAccuracy .binary64 .positive (m * m') (e + e') .exact) := by
    show Float.Model.pack (UnpackedFloat.mul .binary64 x.toModel.unpack y.toModel.unpack) = _
    rw [hxu, hyu]
    rfl
  have hlarge : 52 ≤ (m * m').log2 := by
    have hle := Nat.le_mul_of_pos_right m hm'
    have hfirst := two_pow_le_of_log2 hm hlog
    exact (Nat.le_log2 (by omega)).2 (by omega)
  have hproduct : ((m * m' : Nat) : ℚ) * 2 ^ (e + e') = a * b := by
    rw [← hvalue, ← hvalue', zpow_add₀ two_ne_zero, Nat.cast_mul]
    ring
  obtain ⟨r, hr, hnear⟩ := exists_roundWithAccuracy_exact .positive hlarge hproduct hv
  exact ⟨r, hr.hasValue hmul, hnear⟩

/-- A mantissa with 53 bits or more is not shifted up before it is rounded. -/
theorem normalize_of_log2 (hlog : 52 ≤ m.log2) (e : Int) (zeroSign : Sign) :
    UnpackedFloat.normalize .binary64 m e zeroSign =
      roundWithAccuracy .binary64 .positive m e .exact := by
  have hpos : 0 < m := by
    refine Nat.pos_of_ne_zero ?_
    rintro rfl
    exact absurd hlog (by decide)
  have hcompare : compare (m : Int) 0 = .gt := Int.compare_eq_gt.2 (by omega)
  have hcount : (e - Format.binary64.targetExponent (totalExponent m e)).toNat = 0 := by
    have htarget : Format.binary64.targetExponent (totalExponent m e) =
        max ((m.log2 : Int) + 1 + e - 53) (-1074) := rfl
    omega
  rw [UnpackedFloat.normalize, hcompare]
  show UnpackedFloat.round .binary64 .positive m e = _
  rw [UnpackedFloat.round]
  simp only [decreaseExponent, hcount, Nat.shiftLeft_zero, Int.natCast_zero, Int.sub_zero]

/-- The sum of two mantissas that have been brought to one exponent. -/
theorem HasValue.add (hx : HasValue x a) (hy : HasValue y b) (hv : IsModerate (a + b)) :
    ∃ r, HasValue (x + y) r ∧ IsNear (a + b) r := by
  obtain ⟨m, e, hm, hxu, hlog, hvalue⟩ := hx.exists_finite
  obtain ⟨m', e', hm', hyu, hlog', hvalue'⟩ := hy.exists_finite
  obtain ⟨k, i, j, hk, rfl, rfl⟩ : ∃ (k : Int) (i j : Nat), min e e' = k ∧ e = k + i ∧ e' = k + j :=
    ⟨min e e', (e - min e e').toNat, (e' - min e e').toNat, rfl, by omega, by omega⟩
  have hlarge : 52 ≤ (m * 2 ^ i + m' * 2 ^ j).log2 := by
    have hle := Nat.le_mul_of_pos_right m (Nat.two_pow_pos i)
    have hfirst := two_pow_le_of_log2 hm hlog
    exact (Nat.le_log2 (by omega)).2 (by omega)
  have hadd : (x + y).toModel = Float.Model.pack
      (roundWithAccuracy .binary64 .positive (m * 2 ^ i + m' * 2 ^ j) k .exact) := by
    have hi : (k + i - k).toNat = i := by omega
    have hj : (k + j - k).toNat = j := by omega
    rw [← normalize_of_log2 hlarge k .positive, ← Nat.shiftLeft_eq, ← Nat.shiftLeft_eq,
      Int.natCast_add]
    show Float.Model.pack (UnpackedFloat.add .binary64 x.toModel.unpack y.toModel.unpack) = _
    rw [hxu, hyu]
    show Float.Model.pack (UnpackedFloat.normalize .binary64
      ((m <<< (k + i - min (k + i) (k + j)).toNat : Nat) +
        (m' <<< (k + j - min (k + i) (k + j)).toNat : Nat)) (min (k + i) (k + j)) .positive) = _
    rw [hk, hi, hj]
  have hsum : ((m * 2 ^ i + m' * 2 ^ j : Nat) : ℚ) * 2 ^ k = a + b := by
    rw [← hvalue, ← hvalue', zpow_add₀ two_ne_zero, zpow_add₀ two_ne_zero, zpow_natCast, zpow_natCast]
    push_cast
    ring
  obtain ⟨r, hr, hnear⟩ := exists_roundWithAccuracy_exact .positive hlarge hsum hv
  exact ⟨r, hr.hasValue hadd, hnear⟩

/-- The exponent of a quotient that is not too small. -/
theorem exponent_le_of_div (hlog : m.log2 = 52) (hlog' : m'.log2 = 52)
    (hv : IsModerate ((m : ℚ) * 2 ^ e / (m' * 2 ^ e'))) : -101 ≤ e - e' := by
  obtain ⟨-, hhigh⟩ := bounds_of_log2 hlog
  obtain ⟨hlow, -⟩ := bounds_of_log2 hlog'
  have hpos : (0 : ℚ) < m' * 2 ^ e' := mul_pos (lt_of_lt_of_le (two_zpow_pos 52) hlow) (two_zpow_pos e')
  have hless : (2 : ℚ) ^ (-100 + (52 + e')) < 2 ^ (53 + e) := by
    calc (2 : ℚ) ^ (-100 + (52 + e'))
      _ = 2 ^ (-100 : Int) * (2 ^ (52 : Int) * 2 ^ e') := by
        rw [zpow_add₀ two_ne_zero, zpow_add₀ two_ne_zero]
      _ ≤ 2 ^ (-100 : Int) * (m' * 2 ^ e') :=
        mul_le_mul_of_nonneg_left (mul_le_mul_of_nonneg_right hlow (two_zpow_pos e').le)
          (two_zpow_pos _).le
      _ ≤ m * 2 ^ e := (le_div_iff₀ hpos).1 hv.1
      _ < 2 ^ (53 : Int) * 2 ^ e := mul_lt_mul_of_pos_right hhigh (two_zpow_pos e)
      _ = 2 ^ (53 + e) := (zpow_add₀ two_ne_zero ..).symm
  have hexponent := (zpow_lt_zpow_iff_right₀ one_lt_two).1 hless
  omega

/-- A quotient of two mantissas, the first of which has been shifted up by 53 bits. -/
theorem divCore_of_log2 (hlog : m.log2 = 52) (hlog' : m'.log2 = 52) (he : -1021 ≤ e - e') :
    divCore .binary64 m e m' e' = (m * 2 ^ (53 : Nat) / m', e - e' - (53 : Nat),
      accuracyOfFraction (m * 2 ^ (53 : Nat) % m') m') := by
  have htarget : min (e - e') (Format.binary64.targetExponent
      (totalExponent m e - totalExponent m' e')) = e - e' - (53 : Nat) := by
    have hdifference : Format.binary64.targetExponent (totalExponent m e - totalExponent m' e') =
        max ((m.log2 : Int) + 1 + e - (m'.log2 + 1 + e') - 53) (-1074) := rfl
    omega
  have hcount : (e - e' - (e - e' - (53 : Nat))).toNat = 53 := by omega
  rw [divCore]
  simp only [htarget, hcount, Nat.shiftLeft_eq]

theorem HasValue.div (hx : HasValue x a) (hy : HasValue y b) (hv : IsModerate (a / b)) :
    ∃ r, HasValue (x / y) r ∧ IsNear (a / b) r := by
  obtain ⟨m, e, hm, hxu, hlog, rfl⟩ := hx.exists_finite
  obtain ⟨m', e', hm', hyu, hlog', rfl⟩ := hy.exists_finite
  have he := exponent_le_of_div hlog hlog' hv
  have hdiv : (x / y).toModel = Float.Model.pack (roundWithAccuracy .binary64 .positive
      (m * 2 ^ (53 : Nat) / m') (e - e' - (53 : Nat))
      (accuracyOfFraction (m * 2 ^ (53 : Nat) % m') m')) := by
    show Float.Model.pack (UnpackedFloat.div .binary64 x.toModel.unpack y.toModel.unpack) = _
    rw [hxu, hyu, div_finite, divCore_of_log2 hlog hlog' (by omega)]
    rfl
  have hlarge : 52 ≤ (m * 2 ^ (53 : Nat) / m').log2 := by
    have hfirst := two_pow_le_of_log2 hm hlog
    have hlast := ((Nat.log2_eq_iff (by omega)).1 hlog').2
    have hbits : 2 ^ (52 : Nat) ≤ m * 2 ^ (53 : Nat) / m' := (Nat.le_div_iff_mul_le hm').2 (by omega)
    exact (Nat.le_log2 (by omega)).2 hbits
  have hquotient : ((m * 2 ^ (53 : Nat) : Nat) : ℚ) / m' * 2 ^ (e - e' - (53 : Nat)) =
      m * 2 ^ e / (m' * 2 ^ e') := by
    rw [zpow_sub₀ two_ne_zero, zpow_sub₀ two_ne_zero, zpow_natCast]
    push_cast
    field_simp
    norm_num
  obtain ⟨r, hr, hnear⟩ := exists_roundWithAccuracy .positive hm'
    (isTruncated_accuracyOfFraction hm') hlarge hquotient hv
  exact ⟨r, hr.hasValue hdiv, hnear⟩

/-- Below 53 bits, what stands behind the point is counted in parts of a power of two. -/
theorem value_mul_unit (he : e ≤ 0) : (m : ℚ) * 2 ^ e * (2 ^ (-e).toNat : Nat) = m := by
  have hpower : ((2 ^ (-e).toNat : Nat) : ℚ) = 2 ^ (-e) := by
    have hcast : (-e) = ((-e).toNat : Int) := by omega
    rw [hcast, zpow_natCast]
    exact_mod_cast rfl
  rw [hpower, mul_assoc, ← zpow_add₀ two_ne_zero, add_neg_cancel, zpow_zero, mul_one]

/-- A float that is less than a half away from a whole number is rounded to it. -/
theorem HasValue.roundHalfAway {n : Nat} (hx : HasValue x v) (hsmall : v < 2 ^ (52 : Int))
    (hnear : |v - n| < 1 / 2) : roundHalfAway x = Float.ofNat n := by
  obtain ⟨m, e, hm, hu, hlog, rfl⟩ := hx.exists_finite
  obtain ⟨hfirst, -⟩ := bounds_of_log2 hlog
  have he : ¬0 ≤ e := by
    intro he
    have hone : (1 : ℚ) ≤ 2 ^ e := one_le_zpow₀ one_le_two he
    have hle := mul_le_mul hfirst hone zero_le_one (Nat.cast_nonneg m)
    rw [mul_one] at hle
    exact absurd hsmall (not_lt.2 hle)
  have hquotient : (2 * m + 2 ^ (-e).toNat) / (2 * 2 ^ (-e).toNat) = n := by
    have hpos : (0 : ℚ) < (2 ^ (-e).toNat : Nat) := Nat.cast_pos.2 (Nat.two_pow_pos _)
    have hunit : (m : ℚ) * 2 ^ e * (2 ^ (-e).toNat : Nat) = m := value_mul_unit (by omega)
    obtain ⟨hless, hmore⟩ := abs_lt.1 hnear
    generalize 2 ^ (-e).toNat = unit at hunit hpos
    have hlower := mul_lt_mul_of_pos_right hless hpos
    have hupper := mul_lt_mul_of_pos_right hmore hpos
    rw [sub_mul, hunit] at hlower hupper
    refine Nat.div_eq_of_lt_le ?_ ?_
    · have hle : (n : ℚ) * (2 * unit) ≤ 2 * m + unit := by linarith
      exact_mod_cast hle
    · have hlt : (2 : ℚ) * m + unit < (n + 1) * (2 * unit) := by linarith
      exact_mod_cast hlt
  rw [Number.roundHalfAway, hu]
  simp only [he, if_false, hquotient]

end PathQuery.Number
