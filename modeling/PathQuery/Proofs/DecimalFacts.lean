import PathQuery.Proofs.WholeFloat

/-!
# What is taken of decimals

The results on arithmetic hold for every package of decimals with the facts that `Documented` lists. A
float that is whole becomes the same number or, if it is too large, nothing. Sums, differences and
products are exact wherever their digits are in range, and a whole one that is not in range is refused. A
quotient that can be written with 28 places is exact, and the quotient of two whole numbers with up to 65
bits is not rounded to a whole number. Nothing is said of the decimal of a float that is not whole, nor of
the float of a decimal that is not.
-/

namespace PathQuery.Number

namespace Decimal

/-- A sign in front of a whole number. -/
def signed (negative : Bool) (n : Nat) : Int :=
  if negative then -(n : Int) else n

/-- The digits of a decimal as a whole number, as if there were no point. -/
def unscaled (d : Decimal) : Int :=
  signed d.negative d.mantissa

/-- The decimal is `n / 10 ^ scale`, written with `scale` places. -/
structure IsScaled (n : Int) (scale : Nat) (d : Decimal) : Prop where
  unscaled_eq : d.unscaled = n
  scale_eq : d.scale = scale

/-- A number whose fraction does not end in a zero. -/
def IsReduced (m scale : Nat) : Prop :=
  scale = 0 ∨ m % 10 ≠ 0

/-- A result for `n / 10 ^ scale`: this decimal, if it is in range. A whole number that is not in range
has none, while other numbers may be rounded then. -/
structure IsExactly (n : Int) (scale : Nat) (result : Option Decimal) : Prop where
  exists_of_lt : n.natAbs < mantissaLimit → scale ≤ maxScale → ∃ d, result = some d ∧ d.IsScaled n scale
  eq_none_of_le : mantissaLimit ≤ n.natAbs → scale = 0 → result = none

end Decimal

open Decimal

/-- The documented facts about a package of decimals that results use. -/
structure DecimalPackage.Documented (D : DecimalPackage) : Prop where
  ofFloat_whole {x : Float} {k : Int} : HoldsWhole x k → IsExactly k 0 (D.ofFloat x)
  /-- The decimal of a float does not end in zeros. -/
  ofFloat_reduced {x : Float} {d : Decimal} : D.ofFloat x = some d → IsReduced d.mantissa d.scale
  /-- A sum has the places of the operand that has more. -/
  add (a b : Decimal) : IsExactly (a.atScale (max a.scale b.scale) + b.atScale (max a.scale b.scale))
    (max a.scale b.scale) (D.add a b)
  sub (a b : Decimal) : IsExactly (a.atScale (max a.scale b.scale) - b.atScale (max a.scale b.scale))
    (max a.scale b.scale) (D.sub a b)
  /-- A product has the places of both operands. -/
  mul {a b : Decimal} : a.unscaled * b.unscaled ≠ 0 →
    IsExactly (a.unscaled * b.unscaled) (a.scale + b.scale) (D.mul a b)
  mul_zero {a b : Decimal} : a.unscaled * b.unscaled = 0 → ∃ r, D.mul a b = some r ∧ r.unscaled = 0
  /-- A quotient in range is exact and does not end in zeros. -/
  div_exact {a b : Decimal} {n : Int} {scale : Nat} : b.unscaled ≠ 0 → n.natAbs < mantissaLimit →
    scale ≤ maxScale → IsReduced n.natAbs scale →
    a.unscaled * (10 ^ (b.scale + scale) : Nat) = n * b.unscaled * (10 ^ a.scale : Nat) →
    ∃ r, D.div a b = some r ∧ r.IsScaled n scale
  /-- There is room enough behind the point for what is left over. -/
  div_inexact {a b : Decimal} : a.scale = 0 → b.scale = 0 → b.unscaled ≠ 0 →
    a.unscaled.natAbs < 2 ^ (65 : Nat) → b.unscaled.natAbs < 2 ^ (65 : Nat) →
    ¬b.unscaled ∣ a.unscaled → ∃ r, D.div a b = some r ∧ D.toInt? r = none
  toInt?_eq_some {d : Decimal} {n : Int} : D.toInt? d = some n ↔ d.unscaled = n * (10 ^ d.scale : Nat)
  /-- A whole decimal becomes the double nearest to it, the sign of zero apart. -/
  beq_toFloat {d : Decimal} {n : Int} (x : Float) : D.toInt? d = some n →
    (x == D.toFloat d) = (x == Float.ofInt n)

namespace Decimal

variable {d r : Decimal} {n : Int} {scale : Nat}

theorem natAbs_signed (negative : Bool) (m : Nat) : (signed negative m).natAbs = m := by
  unfold signed
  split <;> omega

theorem natAbs_unscaled (d : Decimal) : d.unscaled.natAbs = d.mantissa :=
  natAbs_signed d.negative d.mantissa

theorem natAbs_unscaled_lt (d : Decimal) : d.unscaled.natAbs < mantissaLimit :=
  d.natAbs_unscaled ▸ d.mantissa_lt

theorem unscaled_ne_zero : d.unscaled ≠ 0 ↔ d.mantissa ≠ 0 := by
  rw [← natAbs_unscaled, Int.natAbs_ne_zero]

theorem atScale_eq (d : Decimal) (scale : Nat) :
    d.atScale scale = signed d.negative (d.mantissa * 10 ^ (scale - d.scale)) := rfl

theorem atScale_self (d : Decimal) : d.atScale d.scale = d.unscaled := by
  rw [atScale_eq, Nat.sub_self, Nat.pow_zero, Nat.mul_one]
  rfl

theorem atScale_of_zero (h : d.unscaled = 0) (scale : Nat) : d.atScale scale = 0 := by
  have hm : d.mantissa = 0 := d.natAbs_unscaled ▸ Int.natAbs_eq_zero.2 h
  rw [atScale_eq, hm, Nat.zero_mul]
  exact ite_self 0

/-- The same decimal, or zero in both cases. -/
def IsSame (d r : Decimal) : Prop :=
  r = d ∨ d.unscaled = 0 ∧ r.unscaled = 0

/-- Digits and places make up a decimal, the sign of zero apart. -/
theorem IsScaled.isSame (h : r.IsScaled d.unscaled d.scale) : d.IsSame r := by
  obtain ⟨hunscaled, hscale⟩ := h
  obtain ⟨negative, m, scale, hm, hle⟩ := d
  obtain ⟨negative', m', scale', hm', hle'⟩ := r
  obtain rfl : m' = m := by
    have hnat := congrArg Int.natAbs hunscaled
    rwa [natAbs_unscaled, natAbs_unscaled] at hnat
  obtain rfl : scale' = scale := hscale
  by_cases hzero : m' = 0
  · subst hzero
    cases negative <;> cases negative' <;> exact .inr ⟨rfl, rfl⟩
  · left
    obtain rfl : negative' = negative := by
      simp only [unscaled, signed] at hunscaled
      cases negative <;> cases negative' <;> simp at hunscaled ⊢ <;> omega
    rfl

end Decimal

namespace DecimalPackage.Documented

variable {D : DecimalPackage} (hD : D.Documented)

include hD

theorem toInt?_of_isScaled {d : Decimal} {n : Int} (hd : d.IsScaled n 0) : D.toInt? d = some n := by
  rw [hD.toInt?_eq_some, hd.scale_eq, hd.unscaled_eq, Nat.pow_zero]
  exact (Int.mul_one n).symm

theorem toInt?_of_zero {d : Decimal} (hd : d.unscaled = 0) : D.toInt? d = some 0 := by
  rw [hD.toInt?_eq_some, hd, Int.zero_mul]

/-- A whole float in range is a decimal without places. -/
theorem exists_ofFloat {x : Float} {k : Int} (hx : HoldsWhole x k) (hk : k.natAbs < mantissaLimit) :
    ∃ d, D.ofFloat x = some d ∧ d.IsScaled k 0 :=
  (hD.ofFloat_whole hx).exists_of_lt hk (Nat.zero_le maxScale)

end DecimalPackage.Documented

end PathQuery.Number
