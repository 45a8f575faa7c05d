import PathQuery.Proofs.IntegerArithmetic

/-!
# Powers of integers

A power whose exponent has 32 bits is multiplied out, and where it does not fit into 64 bits the answer
is a float. A greater exponent leads to floats at once. Of nearly all bases the power is then too large
anyway, but the powers of zero, one and minus one are not: their answers are floats where they should be
integers.
-/

namespace PathQuery

open Number

namespace Number

variable {a : Int}

/-- Behind its first power, a number that is zero, one or minus one repeats itself. -/
theorem pow_add_two (ha : a.natAbs ≤ 1) (n : Nat) : a ^ (n + 1 + 2) = a ^ (n + 1) := by
  have hcube : a * a * a = a := by
    obtain rfl | rfl | rfl : a = 0 ∨ a = 1 ∨ a = -1 := by omega
    all_goals rfl
  rw [Int.pow_succ, Int.pow_succ, Int.pow_succ, Int.mul_assoc, Int.mul_assoc, ← Int.mul_assoc a,
    hcube]

/-- Of its exponent only the parity counts. -/
theorem pow_of_natAbs_le_one (ha : a.natAbs ≤ 1) (n : Nat) :
    a ^ n = a ^ (if n = 0 then 0 else if n % 2 = 0 then 2 else 1 : Nat) := by
  induction n using Nat.strongRecOn with
  | ind n ih =>
    obtain hless | hmore := Nat.lt_or_ge n 3
    · obtain rfl | rfl | rfl : n = 0 ∨ n = 1 ∨ n = 2 := by omega
      all_goals rfl
    · obtain ⟨n, rfl⟩ : ∃ m, n = m + 1 + 2 := ⟨n - 3, by omega⟩
      have hparity : (n + 1 + 2) % 2 = (n + 1) % 2 := Nat.add_mod_right _ _
      rw [pow_add_two ha, ih (n + 1) (by omega), if_neg (Nat.succ_ne_zero _),
        if_neg (Nat.succ_ne_zero _), hparity]

theorem exists_ofInt?_pow (ha : a.natAbs ≤ 1) (n : Nat) : ∃ k, ofInt? (a ^ n) = some k := by
  have hpow : (a ^ n).natAbs ≤ 1 := by
    have hle := Nat.pow_le_pow_left ha n
    rwa [Nat.one_pow, ← Int.natAbs_pow] at hle
  exact exists_ofInt? (by omega) (by omega)

/-- With 64 factors that are at least two, a product does not fit. -/
theorem ofInt?_pow_eq_none (ha : 2 ≤ a.natAbs) {n : Nat} (hn : 64 ≤ n) : ofInt? (a ^ n) = none := by
  have hlarge : 2 ^ (64 : Nat) ≤ (a ^ n).natAbs := by
    rw [Int.natAbs_pow]
    exact Nat.le_trans (Nat.pow_le_pow_right (by decide) hn) (Nat.pow_le_pow_left ha n)
  exact ofInt?_eq_none (by omega)

end Number

namespace Value

/-- The answer for a whole number: the integer if it fits into 64 bits, and a float otherwise. -/
structure IsIntegerIfFits (n : Int) (u : Value) : Prop where
  integer : ∀ k, ofInt? n = some k → u = .integer k
  float : ofInt? n = none → ∃ x, u = .float x

namespace Arithmetic

theorem intPower_of_lt {a b : Int64} (hb : 0 ≤ b.toInt) (hlt : b.toInt < 2 ^ (32 : Nat)) :
    intPower a b = ofInt? (a.toInt ^ b.toInt.toNat) := by
  obtain ⟨n, hn⟩ := Int.eq_ofNat_of_zero_le hb
  have hexponent : ¬(b.toInt < 0 ∨ 2 ^ (32 : Nat) ≤ b.toInt) := by omega
  unfold intPower
  dsimp only
  rw [if_neg hexponent, hn, Int.toNat_natCast]
  by_cases hsmall : a.toInt.natAbs ≤ 1
  · have hzero : (n : Int) = 0 ↔ n = 0 := by omega
    have heven : (n : Int) % 2 = 0 ↔ n % 2 = 0 := by omega
    rw [if_pos hsmall, pow_of_natAbs_le_one hsmall n]
    simp only [hzero, heven]
  · rw [if_neg hsmall]
    split
    · next h => exact (ofInt?_pow_eq_none (by omega) (by omega)).symm
    · rfl

theorem intPower_of_le {a b : Int64} (hle : 2 ^ (32 : Nat) ≤ b.toInt) : intPower a b = none :=
  if_pos (.inr hle)

variable {D : DecimalPackage}

/-- Decimals have no powers. -/
theorem exists_viaDecimals_pow (x y : Float) : ∃ z, pow.viaDecimals D x y = .float z := by
  unfold viaDecimals
  cases D.ofFloat x with
  | none => exact ⟨_, rfl⟩
  | some c => cases D.ofFloat y <;> exact ⟨_, rfl⟩

theorem applyBy_pow (a b : Int64) :
    pow.applyBy D (.integer a) (.integer b) = .ok (match intPower a b with
      | some k => .integer k
      | none => pow.viaDecimals D (toFloat a) (toFloat b)) := by
  have hdiv : ¬(pow = .div ∧ toFloat b == 0) := by
    rintro ⟨h, -⟩
    cases h
  rw [applyBy_of_not_zeroDivision D hdiv]
  rfl

/-- A power of integers with an exponent that is not negative always has an answer. It is an integer
just when the power fits and the exponent has 32 bits. -/
theorem exists_applyBy_pow (a : Int64) {b : Int64} (hb : 0 ≤ b.toInt) :
    ∃ u, pow.applyBy D (.integer a) (.integer b) = .ok u ∧
      (b.toInt < 2 ^ (32 : Nat) → u.IsIntegerIfFits (a.toInt ^ b.toInt.toNat)) ∧
      (2 ^ (32 : Nat) ≤ b.toInt → ∃ x, u = .float x) := by
  obtain ⟨z, hz⟩ := @exists_viaDecimals_pow D (toFloat a) (toFloat b)
  refine ⟨_, applyBy_pow a b, fun hlt => ?_, fun hle => ?_⟩
  · rw [intPower_of_lt hb hlt, hz]
    constructor
    · intro k hk
      rw [hk]
    · intro hnone
      rw [hnone]
      exact ⟨z, rfl⟩
  · rw [intPower_of_le hle, hz]
    exact ⟨z, rfl⟩

/-- The answer is as it should be, unless the base is zero, one or minus one and the exponent has more
than 32 bits. -/
theorem isIntegerIfFits_iff {a b : Int64} (hb : 0 ≤ b.toInt) {u : Value}
    (hu : pow.applyBy D (.integer a) (.integer b) = .ok u) :
    u.IsIntegerIfFits (a.toInt ^ b.toInt.toNat) ↔
      ¬(a.toInt.natAbs ≤ 1 ∧ 2 ^ (32 : Nat) ≤ b.toInt) := by
  obtain ⟨u', hu', hexact, hfloat⟩ := exists_applyBy_pow a hb
  obtain rfl : u = u' := Except.ok.inj (hu.symm.trans hu')
  constructor
  · rintro h ⟨hsmall, hle⟩
    obtain ⟨k, hk⟩ := exists_ofInt?_pow hsmall b.toInt.toNat
    obtain ⟨x, hx⟩ := hfloat hle
    cases hx.symm.trans (h.integer k hk)
  · intro h
    obtain hlt | hle := Int.lt_or_le b.toInt (2 ^ (32 : Nat))
    · exact hexact hlt
    · have hnone : ofInt? (a.toInt ^ b.toInt.toNat) = none :=
        ofInt?_pow_eq_none (by omega) (by omega)
      refine ⟨fun k hk => ?_, fun _ => hfloat hle⟩
      rw [hnone] at hk
      cases hk

end Arithmetic

end Value

namespace Walk

open Value.Arithmetic

/-- A power of integers whose exponent is not negative always has an answer. It is the integer if the
power fits into 64 bits, and a float otherwise, in all cases but these: the base is zero, one or minus
one and the exponent has more than 32 bits. The power then fits, but the answer is a float. -/
theorem evaluate_pow_isIntegerIfFits_iff (w : Walk) {left right : Expr} {v : Value} {a b : Int64}
    (hleft : w.evaluate left v = .ok (.integer a))
    (hright : w.evaluate right v = .ok (.integer b)) (hb : 0 ≤ b.toInt) :
    ∃ u, w.evaluate (.binary .pow left right) v = .ok u ∧
      (u.IsIntegerIfFits (a.toInt ^ b.toInt.toNat) ↔
        ¬(a.toInt.natAbs ≤ 1 ∧ 2 ^ (32 : Nat) ≤ b.toInt)) ∧
      (a.toInt.natAbs ≤ 1 ∧ 2 ^ (32 : Nat) ≤ b.toInt →
        (∃ k, ofInt? (a.toInt ^ b.toInt.toNat) = some k) ∧ ∃ x, u = .float x) := by
  obtain ⟨u, hu, -, hfloat⟩ := exists_applyBy_pow a hb
  refine ⟨u, (w.evaluate_binary_integers .pow hleft hright).trans hu, isIntegerIfFits_iff hb hu, ?_⟩
  rintro ⟨hsmall, hle⟩
  exact ⟨exists_ofInt?_pow hsmall _, hfloat hle⟩

/-- The least integer is a power. -/
theorem evaluate_pow_isIntegerIfFits_of_least :
    ∃ u, (start .standard .null).evaluate (.binary .pow
        (.literal (.integer (-2))) (.literal (.integer 63))) .null = .ok u ∧
      u.IsIntegerIfFits (-9223372036854775808) := by
  obtain ⟨u, hu, hfits, -⟩ := @evaluate_pow_isIntegerIfFits_iff (start .standard .null)
    (.literal (.integer (-2))) (.literal (.integer 63)) .null (-2) 63 rfl rfl (by decide)
  exact ⟨u, hu, hfits.2 (by decide)⟩

/-- All powers of one are one, but with this exponent the answer is a float. -/
theorem evaluate_pow_not_isIntegerIfFits :
    ∃ u, (start .standard .null).evaluate (.binary .pow
        (.literal (.integer 1)) (.literal (.integer 4294967296))) .null = .ok u ∧
      ¬u.IsIntegerIfFits (1 ^ (4294967296 : Nat)) ∧ (1 : Int) ^ (4294967296 : Nat) = 1 := by
  have hexponent : 0 ≤ (4294967296 : Int64).toInt := by decide
  obtain ⟨u, hu, -⟩ := exists_applyBy_pow 1 hexponent
  refine ⟨u, (evaluate_binary_integers _ .pow rfl rfl).trans hu, ?_, Int.one_pow⟩
  exact fun h => (isIntegerIfFits_iff hexponent hu).1 h (by decide)

end Walk

end PathQuery
