import PathQuery.Proofs.IntegerArithmetic

/-!
# Quotients of integers

A quotient that leaves nothing over is an integer, if it fits into 64 bits. Otherwise both integers
become the nearest doubles and these decimals. The quotient of two decimals is rounded to as many
places as there is room for, and with operands of this size that never makes it a whole number. The
operands have been rounded before, though: where the divisor leaves something over but its nearest
double divides that of the dividend, the answer is an integer where it should be a float. Any decimals
with the documented facts will do.
-/

namespace PathQuery

open Number

namespace Number

/-- A quotient of 64-bit integers fits if the divisor is neither one nor minus one. -/
theorem exists_ofInt?_div {a b : Int} (ha : a.natAbs ≤ 2 ^ (63 : Nat)) (hb : 2 ≤ b.natAbs)
    (hdvd : b ∣ a) : ∃ k, ofInt? (a / b) = some k := by
  obtain ⟨q, rfl⟩ := hdvd
  have hmul := Nat.mul_le_mul_right q.natAbs hb
  rw [Int.natAbs_mul] at ha
  rw [Int.mul_ediv_cancel_left q (by omega)]
  exact exists_ofInt? (by omega) (by omega)

/-- Only zero becomes a float that is zero. -/
theorem toFloat_beq_zero {n : Int64} (hn : n ≠ 0) : (toFloat n == 0) = false := by
  have hzero : (0 : Float).toModel.unpack = .zero .positive := rfl
  have hstands := standsFor_toFloat hn
  show Float.Model.UnpackedFloat.beq (toFloat n).toModel.unpack (0 : Float).toModel.unpack = false
  rw [hzero]
  generalize (toFloat n).toModel.unpack = u at hstands
  cases hstands with
  | finite => cases signOf n.toInt <;> rfl

end Number

/-! ## Exact answers -/

namespace Value

/-- An answer for the quotient of whole numbers: an integer just when nothing is left over and the
quotient fits into 64 bits, and then this quotient; otherwise a float. -/
structure IsQuotient (a b : Int) (u : Value) : Prop where
  integer_iff : (∃ q, u = .integer q) ↔ b ∣ a ∧ ∃ q, ofInt? (a / b) = some q
  mul_eq : ∀ q, u = .integer q → q.toInt * b = a
  float : ¬(b ∣ a ∧ ∃ q, ofInt? (a / b) = some q) → ∃ x, u = .float x

theorem isQuotient_integer {a b : Int} {q : Int64} (hdvd : b ∣ a) (hq : ofInt? (a / b) = some q) :
    (integer q).IsQuotient a b := by
  refine ⟨⟨fun _ => ⟨hdvd, q, hq⟩, fun _ => ⟨q, rfl⟩⟩, ?_, fun h => absurd ⟨hdvd, q, hq⟩ h⟩
  rintro r hr
  cases hr
  rw [ofInt?_eq_some_iff.1 hq, Int.ediv_mul_cancel hdvd]

theorem isQuotient_float {a b : Int} (h : ¬(b ∣ a ∧ ∃ q, ofInt? (a / b) = some q)) (x : Float) :
    (float x).IsQuotient a b :=
  ⟨⟨nofun, fun hfits => absurd hfits h⟩, nofun, fun _ => ⟨x, rfl⟩⟩

namespace Arithmetic

/-- An exact quotient of integers. -/
theorem onIntegers_div (a b : Int64) :
    div.onIntegers a b = if b.toInt ∣ a.toInt then ofInt? (a.toInt / b.toInt) else none := by
  rw [onIntegers]
  by_cases hdvd : b.toInt ∣ a.toInt
  · rw [if_pos (Int.tmod_eq_zero_of_dvd hdvd), if_pos hdvd, Int.tdiv_eq_ediv_of_dvd hdvd]
  · rw [if_neg (mt Int.dvd_of_tmod_eq_zero hdvd), if_neg hdvd]

section Documented

variable {D : DecimalPackage} (hD : D.Documented)

include hD

/-- Decimals without places have a quotient, which is whole only if nothing is left over. -/
theorem exists_div_whole {m n : Int} {c d : Decimal} (hc : c.IsScaled m 0) (hd : d.IsScaled n 0)
    (hm : m.natAbs < 2 ^ (65 : Nat)) (hn : n.natAbs < 2 ^ (65 : Nat)) (hne : n ≠ 0) :
    ∃ r, D.div c d = some r ∧ D.toInt? r = if n ∣ m then some (m / n) else none := by
  obtain ⟨rfl, hcscale⟩ := hc
  obtain ⟨rfl, hdscale⟩ := hd
  by_cases hdvd : d.unscaled ∣ c.unscaled
  · have hmul := Int.ediv_mul_cancel hdvd
    have hlt : (c.unscaled / d.unscaled).natAbs < mantissaLimit := by
      rw [Int.natAbs_ediv_of_dvd hdvd]
      exact Nat.lt_of_le_of_lt (Nat.div_le_self ..) (Nat.lt_trans hm (by decide))
    obtain ⟨r, hr, hscaled⟩ := hD.div_exact (a := c) hne hlt (Nat.zero_le _) (.inl rfl) (by
      rw [hcscale, hdscale, hmul])
    rw [if_pos hdvd]
    exact ⟨r, hr, hD.toInt?_of_isScaled hscaled⟩
  · rw [if_neg hdvd]
    exact hD.div_inexact hcscale hdscale hne hm hn hdvd

/-- The quotient of two whole floats that are not too large is an integer only if nothing is left over. -/
theorem viaDecimals_div {x y : Float} {m n : Int} (hx : HoldsWhole x m) (hy : HoldsWhole y n)
    (hm : m.natAbs < 2 ^ (65 : Nat)) (hn : n.natAbs < 2 ^ (65 : Nat)) (hne : n ≠ 0) :
    (∀ k, n ∣ m → ofInt? (m / n) = some k → div.viaDecimals D x y = .integer k) ∧
    (¬(n ∣ m ∧ ∃ k, ofInt? (m / n) = some k) → ∃ z, div.viaDecimals D x y = .float z) := by
  obtain ⟨c, hc, hcscaled⟩ := hD.exists_ofFloat hx (Nat.lt_trans hm (by decide))
  obtain ⟨d, hd, hdscaled⟩ := hD.exists_ofFloat hy (Nat.lt_trans hn (by decide))
  obtain ⟨r, hr, hwhole⟩ := exists_div_whole hD hcscaled hdscaled hm hn hne
  have hdecimals : div.onDecimals D c d = some r := hr
  have hresult : div.viaDecimals D x y = ofDecimal D r := by
    rw [viaDecimals_eq hc hd, hdecimals]
  rw [hresult, ofDecimal, hwhole]
  constructor
  · intro k hdvd hk
    rw [if_pos hdvd, Option.bind_some, hk]
  · intro h
    by_cases hdvd : n ∣ m
    · have hnone : ofInt? (m / n) = none :=
        Option.eq_none_iff_forall_ne_some.2 fun k hk => h ⟨hdvd, k, hk⟩
      rw [if_pos hdvd, Option.bind_some, hnone]
      exact ⟨_, rfl⟩
    · rw [if_neg hdvd]
      exact ⟨_, rfl⟩

/-- Two integers have a quotient unless the second is zero. Where something is left over or the
quotient does not fit, it is that of the nearest doubles: an integer if nothing is left over there, and
a float otherwise. -/
theorem exists_applyBy_div (a : Int64) {b : Int64} (hb : b ≠ 0) :
    ∃ u, div.applyBy D (.integer a) (.integer b) = .ok u ∧
      (∀ k, b.toInt ∣ a.toInt → ofInt? (a.toInt / b.toInt) = some k → u = .integer k) ∧
      (¬(b.toInt ∣ a.toInt ∧ ∃ k, ofInt? (a.toInt / b.toInt) = some k) →
        (∀ k, nearest b.toInt ∣ nearest a.toInt →
          ofInt? (nearest a.toInt / nearest b.toInt) = some k → u = .integer k) ∧
        (¬(nearest b.toInt ∣ nearest a.toInt ∧
          ∃ k, ofInt? (nearest a.toInt / nearest b.toInt) = some k) → ∃ x, u = .float x)) := by
  have hzero : ¬(div = .div ∧ toFloat b == 0) := by
    rintro ⟨-, h⟩
    cases (toFloat_beq_zero hb).symm.trans h
  refine ⟨_, applyBy_of_not_zeroDivision D hzero, ?_, ?_⟩
  · intro k hdvd hk
    rw [onIntegers_div, if_pos hdvd, hk]
  · intro h
    have hnone : div.onIntegers a b = none := by
      rw [onIntegers_div]
      split
      · next hdvd => exact Option.eq_none_iff_forall_ne_some.2 fun k hk => h ⟨hdvd, k, hk⟩
      · rfl
    rw [hnone]
    exact viaDecimals_div hD (holdsWhole_toFloat a) (holdsWhole_toFloat b) (natAbs_nearest_lt a)
      (natAbs_nearest_lt b) (nearest_ne_zero fun h => hb (Int64.toInt_inj.1 h))

end Documented

/-- There is only one quotient without a rest that does not fit. -/
theorem eq_of_dvd_of_not_fits {a b : Int64} (hb : b ≠ 0) (hdvd : b.toInt ∣ a.toInt)
    (h : ¬∃ k, ofInt? (a.toInt / b.toInt) = some k) : a.toInt = -2 ^ (63 : Nat) ∧ b.toInt = -1 := by
  have hlow := a.le_toInt
  have hhigh := a.toInt_lt
  have hne : b.toInt ≠ 0 := fun he => hb (Int64.toInt_inj.1 he)
  have hunit : ¬2 ≤ b.toInt.natAbs := fun htwo => h (exists_ofInt?_div (by omega) htwo hdvd)
  obtain hone | hneg : b.toInt = 1 ∨ b.toInt = -1 := by omega
  · rw [hone, Int.ediv_one] at h
    exact absurd ⟨a, ofInt?_toInt a⟩ h
  · refine ⟨?_, hneg⟩
    rw [hneg, Int.ediv_neg, Int.ediv_one] at h
    refine Decidable.byContradiction fun hmin => ?_
    exact h (exists_ofInt? (by omega) (by omega))

/-- The answer is exact unless something is left over, but nothing between the nearest doubles. It
is then the quotient of these. -/
theorem isQuotient_iff {D : DecimalPackage} (hD : D.Documented) {a b : Int64} (hb : b ≠ 0) {u : Value}
    (hu : div.applyBy D (.integer a) (.integer b) = .ok u) :
    (u.IsQuotient a.toInt b.toInt ↔
      (nearest b.toInt ∣ nearest a.toInt → b.toInt ∣ a.toInt)) ∧
    (nearest b.toInt ∣ nearest a.toInt → ¬b.toInt ∣ a.toInt →
      ∃ k, u = .integer k ∧ k.toInt = nearest a.toInt / nearest b.toInt) := by
  obtain ⟨u', hu', hfits, hrest⟩ := exists_applyBy_div hD a hb
  obtain rfl : u = u' := Except.ok.inj (hu.symm.trans hu')
  have hlow := a.le_toInt
  have hhigh := a.toInt_lt
  have hne : b.toInt ≠ 0 := fun he => hb (Int64.toInt_inj.1 he)
  -- what is left over rules out the divisors one and minus one
  have hround (hdvd : ¬b.toInt ∣ a.toInt) (hnearest : nearest b.toInt ∣ nearest a.toInt) :
      ∃ k, ofInt? (nearest a.toInt / nearest b.toInt) = some k ∧ u = .integer k := by
    have htwo : 2 ≤ b.toInt.natAbs := by
      refine Nat.not_lt.1 fun hsmall => ?_
      obtain hone | hneg : b.toInt = 1 ∨ b.toInt = -1 := by omega
      · exact hdvd (hone ▸ Int.one_dvd _)
      · exact hdvd (hneg ▸ (Int.neg_dvd.2 (Int.one_dvd _)))
    obtain ⟨k, hk⟩ := exists_ofInt?_div
      (by rw [natAbs_nearest]; exact roundBits_le (by omega))
      (by rw [natAbs_nearest]; exact two_le_roundBits htwo) hnearest
    exact ⟨k, hk, (hrest fun h => hdvd h.1).1 k hnearest hk⟩
  refine ⟨⟨fun h hnearest => ?_, fun h => ?_⟩, fun hnearest hdvd => ?_⟩
  · refine Decidable.byContradiction fun hdvd => ?_
    obtain ⟨k, -, rfl⟩ := hround hdvd hnearest
    exact hdvd (h.integer_iff.1 ⟨k, rfl⟩).1
  · by_cases hexact : b.toInt ∣ a.toInt ∧ ∃ k, ofInt? (a.toInt / b.toInt) = some k
    · obtain ⟨hdvd, k, hk⟩ := hexact
      rw [hfits k hdvd hk]
      exact isQuotient_integer hdvd hk
    · have hfloat : ¬(nearest b.toInt ∣ nearest a.toInt ∧
          ∃ k, ofInt? (nearest a.toInt / nearest b.toInt) = some k) := by
        rintro ⟨hnearest, k, hk⟩
        obtain ⟨ha, hb⟩ := eq_of_dvd_of_not_fits hb (h hnearest) fun hk => hexact ⟨h hnearest, hk⟩
        have hlimit : ofInt? (nearest (-2 ^ (63 : Nat)) / nearest (-1)) = none := by decide
        rw [ha, hb, hlimit] at hk
        cases hk
      obtain ⟨x, rfl⟩ := (hrest hexact).2 hfloat
      exact isQuotient_float hexact x
  · obtain ⟨k, hk, hu⟩ := hround hdvd hnearest
    exact ⟨k, hu, ofInt?_eq_some_iff.1 hk⟩

/-- Integers with up to 53 bits are doubles, and their quotients are always exact. -/
theorem isQuotient_of_natAbs_lt {D : DecimalPackage} (hD : D.Documented) {a b : Int64} (hb : b ≠ 0)
    {u : Value} (ha53 : a.toInt.natAbs < 2 ^ (53 : Nat)) (hb53 : b.toInt.natAbs < 2 ^ (53 : Nat))
    (hu : div.applyBy D (.integer a) (.integer b) = .ok u) : u.IsQuotient a.toInt b.toInt := by
  rw [(isQuotient_iff hD hb hu).1, nearest_of_natAbs_lt ha53, nearest_of_natAbs_lt hb53]
  exact id

end Arithmetic

end Value

namespace Walk

open Value.Arithmetic

/-- A quotient of integers always has an answer, unless the divisor is zero. It is exact, an integer
just when nothing is left over and the quotient fits into 64 bits, in all cases but one: something is
left over, but nothing between the doubles nearest to the operands, whose quotient is the answer. -/
theorem evaluate_div_isQuotient_iff (w : Walk) {left right : Expr} {v : Value} {a b : Int64}
    (hleft : w.evaluate left v = .ok (.integer a))
    (hright : w.evaluate right v = .ok (.integer b)) (hb : b ≠ 0) :
    ∃ u, w.evaluate (.binary .div left right) v = .ok u ∧
      (u.IsQuotient a.toInt b.toInt ↔
        (nearest b.toInt ∣ nearest a.toInt → b.toInt ∣ a.toInt)) ∧
      (nearest b.toInt ∣ nearest a.toInt → ¬b.toInt ∣ a.toInt →
        ∃ k, u = .integer k ∧ k.toInt = nearest a.toInt / nearest b.toInt) := by
  have hD := Decimal.documented
  obtain ⟨u, hu, -⟩ := exists_applyBy_div hD a hb
  exact ⟨u, (w.evaluate_binary_integers .div hleft hright).trans hu, isQuotient_iff hD hb hu⟩

/-- Nothing is left over here, but the quotient is `2 ^ 63` and does not fit. -/
theorem evaluate_div_isQuotient_of_limit :
    ∃ u, (start .standard .null).evaluate (.binary .div
        (.literal (.integer (-9223372036854775808))) (.literal (.integer (-1)))) .null = .ok u ∧
      (-1 : Int64) ≠ 0 ∧ u.IsQuotient (-9223372036854775808) (-1) := by
  obtain ⟨u, hu, hexact, -⟩ := @evaluate_div_isQuotient_iff (start .standard .null)
    (.literal (.integer (-9223372036854775808))) (.literal (.integer (-1))) .null
    (-9223372036854775808) (-1) rfl rfl (by decide)
  exact ⟨u, hu, by decide, hexact.2 (by decide)⟩

/-- The dividend is odd, but as a double it becomes `2 ^ 53`. -/
theorem evaluate_div_not_isQuotient :
    (start .standard .null).evaluate (.binary .div
        (.literal (.integer 9007199254740993)) (.literal (.integer 2))) .null =
      .ok (.integer 4503599627370496) ∧
    ¬(Value.integer 4503599627370496).IsQuotient 9007199254740993 2 := by
  constructor
  · have hD := Decimal.documented
    obtain ⟨u, hu, -⟩ := exists_applyBy_div hD 9007199254740993 (b := 2) (by decide)
    obtain ⟨k, rfl, hk⟩ := (isQuotient_iff hD (by decide) hu).2 (by decide) (by decide)
    obtain rfl : k = 4503599627370496 := Int64.toInt_inj.1 (hk.trans (by decide))
    exact (evaluate_binary_integers _ .div rfl rfl).trans hu
  · intro h
    exact absurd (h.mul_eq _ rfl) (by decide)

end Walk

end PathQuery
