import Mathlib.Logic.Function.Iterate
import PathQuery.Proofs.DecimalForm

/-!
# The digits that a decimal keeps

A decimal drops its last digits one by one, each time rounding a half upwards. However many are dropped,
the error stays below five ninths of a unit. A number that is written with up to 15 digits is therefore
found again from any approximation as good as that of a double, unless zeros behind it bring it between
`4 * 10 ^ 15` and `2 ^ 52`: then 16 digits are kept, and the last of them may be wrong.
-/

namespace PathQuery.Number

/-- A number written with up to 15 digits, of which the last `scale` stand behind the point. Not all of
them stand before it, the last one is not a zero, and with 52 bits no 16 digits of it exceed
`4 * 10 ^ 15`. -/
structure IsShort (p scale : Nat) : Prop where
  mantissa_lt : p < 10 ^ (15 : Nat)
  scale_pos : 0 < scale
  scale_le : scale ≤ 22
  last_ne : p % 10 ≠ 0
  gap : ∀ i : Nat, p * 10 ^ i ≤ 2 ^ (52 : Nat) → p * 10 ^ i < 4 * 10 ^ (15 : Nat)

section Short

variable {p places : Nat}

theorem IsShort.mantissa_pos (h : IsShort p places) : 0 < p := by
  refine Nat.pos_of_ne_zero fun hzero => h.last_ne ?_
  rw [hzero]

end Short

namespace Decimal

/-- The bounds for any number of digits that are dropped one after the other. -/
theorem iterate_tenthHalfUp_bounds (n m : Nat) :
    2 * m ≤ 10 ^ n * (2 * tenthHalfUp^[n] m + 1) ∧
      9 * (10 ^ n * tenthHalfUp^[n] m) ≤ 9 * m + 5 * 10 ^ n := by
  induction n with
  | zero =>
    show 2 * m ≤ 10 ^ 0 * (2 * m + 1) ∧ 9 * (10 ^ 0 * m) ≤ 9 * m + 5 * 10 ^ 0
    omega
  | succ n ih =>
    rw [Function.iterate_succ_apply']
    generalize tenthHalfUp^[n] m = kept at ih
    obtain ⟨hlow, hhigh⟩ := ih
    have hdrop : kept ≤ 10 * tenthHalfUp kept + 4 ∧ 10 * tenthHalfUp kept ≤ kept + 5 := by
      unfold tenthHalfUp
      split <;> omega
    have hlow' := Nat.mul_le_mul_left (10 ^ n) (show 2 * kept + 1 ≤ 10 * (2 * tenthHalfUp kept + 1) by omega)
    have hhigh' := Nat.mul_le_mul_left (10 ^ n) hdrop.2
    rw [Nat.mul_add, Nat.mul_left_comm] at hhigh'
    rw [Nat.pow_succ, Nat.mul_assoc, Nat.mul_assoc, Nat.mul_left_comm (10 ^ n) 10 (tenthHalfUp kept)]
    omega

/-! ## How many digits are dropped -/

theorem limitScale_eq {m scale : Nat} (h : 10 ^ (scale - 24) ≤ m) :
    limitScale m scale = (tenthHalfUp^[scale - 28] m, min scale 28) := by
  induction scale generalizing m with
  | zero => rfl
  | succ scale ih =>
    rw [limitScale]
    by_cases hfits : scale + 1 ≤ maxScale
    · have hnone : scale + 1 - 28 = 0 := Nat.sub_eq_zero_of_le hfits
      have hmin : min (scale + 1) 28 = scale + 1 := Nat.min_eq_left hfits
      rw [if_pos hfits, hnone, hmin]
      rfl
    · have hlarge : 28 ≤ scale := by
        unfold maxScale at hfits
        omega
      have hpower : 10 ^ (scale + 1 - 24) = 10 ^ (scale - 24) * 10 := by
        rw [← Nat.pow_succ, Nat.sub_add_comm (by omega)]
      have hpos : 0 < 10 ^ (scale - 24) := Nat.pow_pos (by decide)
      have hless : 10 ^ (scale - 24) ≤ tenthHalfUp m := by
        unfold tenthHalfUp
        split <;> omega
      have hcount : scale + 1 - 28 = scale - 28 + 1 := by omega
      have hmin : min (scale + 1) 28 = min scale 28 := by omega
      rw [if_neg hfits, if_neg (by omega), ih hless, hcount, hmin, Function.iterate_succ_apply]

/-- Digits are dropped until the mantissa has no more than 52 bits, or no place is left. -/
theorem exists_limitPrecision (m scale : Nat) :
    ∃ n, n ≤ scale ∧ limitPrecision m scale = (tenthHalfUp^[n] m, scale - n) ∧
      (n < scale → tenthHalfUp^[n] m < 2 ^ (52 : Nat)) ∧
      (∀ k, n = k + 1 → 2 ^ (52 : Nat) ≤ tenthHalfUp^[k] m) := by
  induction scale generalizing m with
  | zero => exact ⟨0, Nat.le_refl 0, rfl, fun h => absurd h (Nat.lt_irrefl 0), fun k hk => by omega⟩
  | succ scale ih =>
    rw [limitPrecision]
    by_cases hlarge : 2 ^ (52 : Nat) ≤ m
    · obtain ⟨n, hn, hlimit, hlast, hfirst⟩ := ih (tenthHalfUp m)
      refine ⟨n + 1, by omega, ?_, fun h => ?_, fun k hk => ?_⟩
      · rw [if_pos hlarge, hlimit, Function.iterate_succ_apply, Nat.add_sub_add_right]
      · rw [Function.iterate_succ_apply]
        exact hlast (by omega)
      · obtain rfl : n = k := by omega
        cases n with
        | zero => exact hlarge
        | succ n =>
          rw [Function.iterate_succ_apply]
          exact hfirst n rfl
    · refine ⟨0, Nat.zero_le _, if_neg hlarge, fun _ => Nat.not_le.1 hlarge, fun k hk => by omega⟩

/-- Of a number that has digits enough, as many are dropped as either limit asks for. -/
theorem exists_settle {m scale : Nat} (h : 10 ^ (scale - 24) ≤ m) :
    ∃ n, n ≤ scale ∧ settle m scale = dropZeros (tenthHalfUp^[n] m) (scale - n) ∧
      (n < scale → tenthHalfUp^[n] m < 2 ^ (52 : Nat)) ∧
      (∀ k, n = k + 1 → scale - 28 ≤ k → 2 ^ (52 : Nat) ≤ tenthHalfUp^[k] m) := by
  obtain ⟨n, hn, hlimit, hlast, hfirst⟩ :=
    exists_limitPrecision (tenthHalfUp^[scale - 28] m) (min scale 28)
  have hscale : scale - (n + (scale - 28)) = min scale 28 - n := by omega
  refine ⟨n + (scale - 28), by omega, ?_, fun h => ?_, fun k hk hle => ?_⟩
  · rw [hscale, Function.iterate_add_apply]
    simp only [settle, limitScale_eq h, hlimit]
  · rw [Function.iterate_add_apply]
    exact hlast (by omega)
  · obtain ⟨n', rfl⟩ := Nat.exists_eq_add_of_le' hle
    rw [Function.iterate_add_apply]
    exact hfirst n' (by omega)

/-! ## Short numbers -/

/-- The quotient of `m` and a power of ten is nearly as close to that of `p` as a double would be. -/
structure IsClose (m scale p places : Nat) : Prop where
  upper : 9007000000000000 * (m * 10 ^ places) ≤ 9007000000000001 * (p * 10 ^ scale)
  lower : 9006999999999999 * (p * 10 ^ scale) ≤ 9007000000000000 * (m * 10 ^ places)

section Rounded

variable {m unit kept p : Nat}

/-- Where no more than 15 digits and a half are kept, they are those of the number. -/
theorem kept_eq_of_lt (hlow : 2 * m ≤ unit * (2 * kept + 1))
    (hhigh : 9 * (unit * kept) ≤ 9 * m + 5 * unit)
    (hupper : 9007000000000000 * m ≤ 9007000000000001 * (unit * p))
    (hlower : 9006999999999999 * (unit * p) ≤ 9007000000000000 * m) (hunit : 0 < unit)
    (hp : p < 4 * 10 ^ (15 : Nat)) : kept = p := by
  have hsmall : unit * p < unit * (4 * 10 ^ (15 : Nat)) := Nat.mul_lt_mul_of_pos_left hp hunit
  obtain hless | heq | hmore := Nat.lt_trichotomy kept p
  · have hstep := Nat.mul_le_mul_left unit (show 2 * kept + 1 + 1 ≤ 2 * p by omega)
    rw [Nat.mul_succ, Nat.mul_left_comm] at hstep
    omega
  · exact heq
  · have hstep := Nat.mul_le_mul_left unit hmore
    rw [Nat.mul_succ] at hstep
    omega

/-- Digits that have 52 bits belong to a number that is no larger. -/
theorem le_of_kept_lt (hlow : 2 * m ≤ unit * (2 * kept + 1))
    (hlower : 9006999999999999 * (unit * p) ≤ 9007000000000000 * m) (hunit : 0 < unit)
    (hkept : kept < 2 ^ (52 : Nat)) : p ≤ 2 ^ (52 : Nat) := by
  refine Nat.not_lt.1 fun hlarge => ?_
  have hstep := Nat.mul_le_mul_left unit (Nat.succ_le_of_lt hlarge)
  have hbits := Nat.mul_le_mul_left unit (show 2 * kept + 1 ≤ 2 * 2 ^ (52 : Nat) - 1 by omega)
  omega

end Rounded

variable {p places m scale : Nat}

/-- The first approximation has digits enough. -/
theorem IsClose.le_mantissa (h : IsClose m scale p places) (hp : IsShort p places) :
    10 ^ (scale - 24) ≤ m := by
  have hpos := hp.mantissa_pos
  have hplaces : 10 ^ places ≤ 10 ^ (22 : Nat) := Nat.pow_le_pow_right (by decide) hp.scale_le
  have hlower := h.lower
  have hdigits := Nat.mul_le_mul_left m hplaces
  have hnumber := Nat.le_mul_of_pos_left (10 ^ scale) hpos
  obtain hsmall | hlarge := Nat.lt_or_ge scale 24
  · have hzero : scale - 24 = 0 := by omega
    have hscale : 0 < 10 ^ scale := Nat.pow_pos (by decide)
    rw [hzero, Nat.pow_zero]
    omega
  · have hsplit : 10 ^ scale = 10 ^ (scale - 24) * 10 ^ (24 : Nat) := by
      rw [← Nat.pow_add, Nat.sub_add_cancel hlarge]
    omega

theorem mul_pow_add (a i j : Nat) : a * 10 ^ (i + j) = 10 ^ i * (a * 10 ^ j) := by
  rw [Nat.pow_add, Nat.mul_left_comm]

/-- Zeros at both ends make no difference. -/
theorem IsClose.cancel {k n j : Nat} (h : IsClose m (k + n) p (k + j)) : IsClose m n p j := by
  have hpos : 0 < 10 ^ k := Nat.pow_pos (by decide)
  obtain ⟨hupper, hlower⟩ := h
  rw [mul_pow_add m, mul_pow_add p] at hupper hlower
  rw [Nat.mul_left_comm, Nat.mul_left_comm _ (10 ^ k)] at hupper hlower
  exact ⟨Nat.le_of_mul_le_mul_left hupper hpos, Nat.le_of_mul_le_mul_left hlower hpos⟩

/-- The digits that are kept reach at least as far as those of the number. -/
theorem places_le_of_kept {n k : Nat} (h : IsClose m (k + n) p places) (hp : IsShort p places)
    (hdropped : ∀ n', n = n' + 1 → 2 ^ (52 : Nat) ≤ tenthHalfUp^[n'] m) : places ≤ k := by
  refine Nat.not_lt.1 fun hless => ?_
  obtain ⟨j, rfl⟩ : ∃ j, places = k + (1 + j) := ⟨places - k - 1, by omega⟩
  have hmantissa := hp.mantissa_lt
  cases n with
  | zero =>
    -- the number itself ends in a zero
    obtain ⟨hupper, hlower⟩ := h.cancel
    rw [mul_pow_add m, Nat.pow_one, Nat.pow_zero, Nat.mul_one] at hupper hlower
    have hten : p = 10 * (m * 10 ^ j) := by omega
    exact hp.last_ne (hten ▸ Nat.mul_mod_right ..)
  | succ n =>
    -- digits have been dropped without need
    rw [Nat.add_comm n 1] at h
    obtain ⟨hupper, -⟩ := h.cancel.cancel
    have hbits := Nat.mul_le_mul_left (10 ^ n) (hdropped n rfl)
    have hbounds := (iterate_tenthHalfUp_bounds n m).2
    have hnumber := Nat.mul_le_mul_right (10 ^ n) (Nat.le_of_lt hmantissa)
    have hdigits := Nat.le_mul_of_pos_right m (Nat.pow_pos (show 0 < 10 by decide) : 0 < 10 ^ j)
    have hpos : 0 < 10 ^ n := Nat.pow_pos (by decide)
    omega

/-- All the digits of a short number are kept. -/
theorem settle_of_isClose (h : IsClose m scale p places) (hp : IsShort p places) :
    settle m scale = (p, places) := by
  obtain ⟨n, hn, hsettle, hlast, hfirst⟩ := exists_settle (h.le_mantissa hp)
  obtain ⟨k, rfl⟩ := Nat.exists_eq_add_of_le' hn
  have hplaces : places ≤ k := by
    have hle := hp.scale_le
    obtain hlarge | hsmall := Nat.lt_or_ge 27 k
    · omega
    · exact places_le_of_kept h hp fun n' hn' => hfirst n' hn' (by omega)
  obtain ⟨i, rfl⟩ := Nat.exists_eq_add_of_le hplaces
  have hpos : 0 < 10 ^ n := Nat.pow_pos (by decide)
  have hkept := hlast (Nat.lt_add_of_pos_left (Nat.lt_of_lt_of_le hp.scale_pos hplaces))
  obtain ⟨hlow, hhigh⟩ := iterate_tenthHalfUp_bounds n m
  rw [Nat.add_assoc] at h
  obtain ⟨hupper, hlower⟩ := IsClose.cancel (j := 0) h
  rw [Nat.pow_zero, Nat.mul_one, Nat.add_comm i, mul_pow_add p] at hupper hlower
  have hlt := hp.gap i (le_of_kept_lt hlow hlower hpos hkept)
  rw [hsettle, Nat.add_sub_cancel, kept_eq_of_lt hlow hhigh hupper hlower hpos hlt, dropZeros_mul]
  exact dropZeros_of_isReduced (.inr hp.last_ne)

end Decimal

end PathQuery.Number
