import PathQuery.Proofs.IntegerArithmetic
import PathQuery.Proofs.WholeFloat

/-!
# Remainders of whole numbers

The remainder of two whole numbers is worked out in 64-bit integers. Whole floats beyond these are
first brought to the nearer end of their range, and the answer is then the remainder of other numbers.
Within the range the answer is exact, but for one pair: the least integer leaves nothing over when it is
divided by minus one, and yet there is no answer, because the quotient does not fit.
-/

namespace PathQuery

open Number

namespace Number

/-- The number of the 64-bit range that is nearest to `n`. -/
def intoRange (n : Int) : Int :=
  max Int64.minValue.toInt (min n Int64.maxValue.toInt)

theorem toInt_ofIntClamp (n : Int) : (Int64.ofIntClamp n).toInt = intoRange n := by
  have hmin := toInt_minValue
  have hmax := toInt_maxValue
  unfold Int64.ofIntClamp intoRange
  split
  · split
    · rw [Int64.toInt_ofIntLE]
      omega
    · omega
  · omega

theorem intoRange_toInt (k : Int64) : intoRange k.toInt = k.toInt := by
  have hlow := k.minValue_le_toInt
  have hhigh := k.toInt_le
  unfold intoRange
  omega

end Number

namespace Value

/-- An integer, or a float that is whole, and which number it is. -/
inductive IsWholeNumber : Value → Int → Prop
  | integer (k : Int64) : IsWholeNumber (.integer k) k.toInt
  | float {x : Float} {n : Int} : HoldsWhole x n → IsWholeNumber (.float x) n

variable {left right : Value} {a b : Int}

theorem IsWholeNumber.exists_toInteger (h : left.IsWholeNumber a) :
    ∃ k, left.toInteger = .ok k ∧ k.toInt = intoRange a := by
  cases h with
  | integer k => exact ⟨k, rfl, (intoRange_toInt k).symm⟩
  | @float x n hx =>
    refine ⟨truncate64 x, ?_, ?_⟩
    · have hwhole : (Value.float x).asInt? = some (truncate64 x) := by
        rw [asInt?, if_pos hx.isWhole]
      simp only [toInteger, toNumeral, Numeral.toValue, hwhole, bind, Except.bind, pure, Except.pure]
    · rw [truncate64, hx.truncate, toInt_ofIntClamp]

theorem IsWholeNumber.unfit_eq (h : left.IsWholeNumber a) :
    unfit .integer left = .invalidArgument .integer (toString left) := by
  cases h <;> rfl

/-- The remainder is that of the nearest 64-bit integers. -/
theorem remainder_eq (hleft : left.IsWholeNumber a) (hright : right.IsWholeNumber b) (hb : b ≠ 0) :
    (a ≤ -2 ^ (63 : Nat) ∧ b = -1 →
      left.remainder right = .error (.invalidArgument .integer (toString right))) ∧
    (¬(a ≤ -2 ^ (63 : Nat) ∧ b = -1) →
      ∃ r : Int64, left.remainder right = .ok (.integer r) ∧
        r.toInt = (intoRange a).tmod (intoRange b)) := by
  obtain ⟨m, hm, hm'⟩ := hleft.exists_toInteger
  obtain ⟨n, hn, hn'⟩ := hright.exists_toInteger
  have hmin := toInt_minValue
  have hmax := toInt_maxValue
  have hne : ¬n = 0 := by
    rintro rfl
    rw [Int64.toInt_zero, intoRange] at hn'
    omega
  have hlimit : (m = Int64.minValue ∧ n = -1) ↔ a ≤ -2 ^ (63 : Nat) ∧ b = -1 := by
    have hneg : (-1 : Int64).toInt = -1 := rfl
    rw [← Int64.toInt_inj, ← Int64.toInt_inj, hm', hn', intoRange, intoRange]
    omega
  have hremainder : left.remainder right =
      if m = Int64.minValue ∧ n = -1 then .error (Value.unfit .integer right)
      else .ok (.integer (Int64.ofInt (m.toInt.tmod n.toInt))) := by
    rw [remainder, hm, hn]
    simp only [bind, Except.bind, if_neg hne]
    rfl
  rw [hremainder, hright.unfit_eq]
  refine ⟨fun h => if_pos (hlimit.2 h), fun h => ⟨_, if_neg (mt hlimit.1 h), ?_⟩⟩
  have hlow := m.le_toInt
  have hhigh := m.toInt_lt
  have hlow' := n.le_toInt
  have hhigh' := n.toInt_lt
  have hne' : n.toInt ≠ 0 := fun h => hne (Int64.toInt_inj.1 h)
  have hless := Nat.mod_lt m.toInt.natAbs (Int.natAbs_pos.2 hne')
  rw [← Int.natAbs_tmod] at hless
  rw [← hm', ← hn']
  exact Int64.toInt_ofInt_of_le (by omega) (by omega)

/-- The remainder is exact just when the nearest 64-bit integers have the same one. -/
theorem remainder_isExact_iff (hleft : left.IsWholeNumber a) (hright : right.IsWholeNumber b)
    (hb : b ≠ 0) :
    (∃ r : Int64, left.remainder right = .ok (.integer r) ∧ r.toInt = a.tmod b) ↔
      ¬(a ≤ -2 ^ (63 : Nat) ∧ b = -1) ∧ (intoRange a).tmod (intoRange b) = a.tmod b := by
  obtain ⟨hfault, hresult⟩ := remainder_eq hleft hright hb
  constructor
  · rintro ⟨r, hr, hexact⟩
    have hlimit : ¬(a ≤ -2 ^ (63 : Nat) ∧ b = -1) := fun h => by
      cases hr.symm.trans (hfault h)
    obtain ⟨r', hr', hvalue⟩ := hresult hlimit
    cases hr.symm.trans hr'
    exact ⟨hlimit, hvalue.symm.trans hexact⟩
  · rintro ⟨hlimit, hexact⟩
    obtain ⟨r, hr, hvalue⟩ := hresult hlimit
    exact ⟨r, hr, hvalue.trans hexact⟩

end Value

namespace Walk

theorem evaluate_mod (w : Walk) {left right : Expr} {v x y : Value} (hleft : w.evaluate left v = .ok x)
    (hright : w.evaluate right v = .ok y) :
    w.evaluate (.binary .mod left right) v = x.remainder y :=
  w.evaluate_binary_of_ne (by decide) (by decide) hleft hright

/-- The remainder of two whole numbers, integers or floats, is worked out between the nearest 64-bit
integers. It is exact just when these have the same remainder, and are not the least integer and minus
one, for which there is none. Other numbers of 64 bits always have their exact remainder. -/
theorem evaluate_mod_isExact_iff (w : Walk) {left right : Expr} {v x y : Value} {a b : Int}
    (hleft : w.evaluate left v = .ok x) (hright : w.evaluate right v = .ok y)
    (hx : x.IsWholeNumber a) (hy : y.IsWholeNumber b) (hb : b ≠ 0) :
    ((∃ r : Int64, w.evaluate (.binary .mod left right) v = .ok (.integer r) ∧
        r.toInt = a.tmod b) ↔
      ¬(a ≤ -2 ^ (63 : Nat) ∧ b = -1) ∧ (intoRange a).tmod (intoRange b) = a.tmod b) ∧
    (a ≤ -2 ^ (63 : Nat) ∧ b = -1 → w.evaluate (.binary .mod left right) v =
      .error (.invalidArgument .integer (toString y))) ∧
    (¬(a ≤ -2 ^ (63 : Nat) ∧ b = -1) → ∃ r : Int64,
      w.evaluate (.binary .mod left right) v = .ok (.integer r) ∧
        r.toInt = (intoRange a).tmod (intoRange b)) ∧
    ∀ m n : Int64, a = m.toInt → b = n.toInt → ¬(m = Int64.minValue ∧ n = -1) →
      ∃ r : Int64, w.evaluate (.binary .mod left right) v = .ok (.integer r) ∧
        r.toInt = a.tmod b := by
  obtain ⟨hfault, hresult⟩ := Value.remainder_eq hx hy hb
  have hiff := Value.remainder_isExact_iff hx hy hb
  rw [w.evaluate_mod hleft hright]
  refine ⟨hiff, hfault, hresult, ?_⟩
  rintro m n rfl rfl hlimit
  refine hiff.2 ⟨?_, by rw [intoRange_toInt, intoRange_toInt]⟩
  rintro ⟨hm, hn⟩
  have hlow := m.minValue_le_toInt
  have hmin := toInt_minValue
  exact hlimit ⟨Int64.toInt_inj.1 (by omega), Int64.toInt_inj.1 hn⟩

/-- A whole float next to the least integer. -/
theorem evaluate_mod_isExact_of_float :
    ∃ r : Int64, (start .standard .null).evaluate (.binary .mod
        (.literal (.integer (-9223372036854775808))) (.literal (.float 10))) .null =
          .ok (.integer r) ∧ r.toInt = -8 := by
  have hten : HoldsWhole 10 10 :=
    @HoldsWhole.finite _ .positive 5629499534213120 _ (-49) (by decide) rfl rfl
  obtain ⟨r, hr, hexact⟩ := (@evaluate_mod_isExact_iff (start .standard .null)
    (.literal (.integer (-9223372036854775808))) (.literal (.float 10)) .null _ _ _ _ rfl rfl
    (.integer _) (.float hten) (by decide)).1.2 (by decide)
  exact ⟨r, hr, hexact⟩

/-- Ten to the power of 19 leaves nothing over when it is divided by ten, but it is taken for the
greatest integer, and that leaves seven. The least integer is refused as no integer. -/
theorem evaluate_mod_not_isExact :
    HoldsWhole 1e19 10000000000000000000 ∧
    (start .standard .null).evaluate (.binary .mod
        (.literal (.float 1e19)) (.literal (.integer 10))) .null = .ok (.integer 7) ∧
    (10000000000000000000 : Int).tmod 10 = 0 ∧
    (start .standard .null).evaluate (.binary .mod
        (.literal (.integer (-9223372036854775808))) (.literal (.integer (-1)))) .null =
      .error (.invalidArgument .integer "-1") ∧
    (-9223372036854775808 : Int).tmod (-1) = 0 := by
  have hlarge : HoldsWhole 1e19 10000000000000000000 :=
    @HoldsWhole.finite _ .positive 4882812500000000 _ 11 (by decide) rfl rfl
  obtain ⟨-, hresult⟩ := Value.remainder_eq (.float hlarge) (.integer 10) (by decide)
  obtain ⟨hfault, -⟩ := Value.remainder_eq (.integer (-9223372036854775808)) (.integer (-1))
    (by decide)
  obtain ⟨r, hr, hvalue⟩ := hresult (by decide)
  obtain rfl : r = 7 := Int64.toInt_inj.1 (hvalue.trans (by decide))
  exact ⟨hlarge, (evaluate_mod _ rfl rfl).trans hr, by decide,
    (evaluate_mod _ rfl rfl).trans (hfault (by decide)), by decide⟩

end Walk

end PathQuery
