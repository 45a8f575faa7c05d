import PathQuery.Proofs.DecimalArithmetic
import PathQuery.Walk.Evaluate

/-!
# Sums, differences and products of integers

As long as the result fits into 64 bits it is exact. Otherwise both integers become the nearest
doubles and these decimals, and the result on decimals is an integer again if it fits. It then
differs from the exact result, which does not fit: close to the ends of the range the answer is a
wrong integer where it should be a float. Any decimals with the documented facts will do.
-/

namespace PathQuery

open Number

/-! ## Exact answers -/

namespace Value

/-- An answer for a whole number: an integer only if it is that number, and a float if that number
does not fit into 64 bits. -/
structure IsExact (n : Int) (u : Value) : Prop where
  integer : ∀ r, u = .integer r → r.toInt = n
  float : ofInt? n = none → ∃ x, u = .float x

namespace Arithmetic

/-- The operator that stands for an operation. -/
def operator : Arithmetic → Operator
  | .add => .add
  | .sub => .sub
  | .mul => .mul
  | .div => .div
  | .pow => .pow

/-- What an operation does to whole numbers, for those that never leave them. -/
def onInts? : Arithmetic → Option (Int → Int → Int)
  | .add => some (· + ·)
  | .sub => some (· - ·)
  | .mul => some (· * ·)
  | .div | .pow => none

variable {op : Arithmetic} {f : Int → Int → Int}

theorem onIntegers_eq (hop : op.onInts? = some f) (a b : Int64) :
    op.onIntegers a b = ofInt? (f a.toInt b.toInt) := by
  cases op <;> cases hop <;> rfl

theorem natAbs_lt_of_ofInt? {n : Int} {k : Int64} (h : ofInt? n = some k) : n.natAbs < mantissaLimit := by
  have hlow := k.le_toInt
  have hhigh := k.toInt_lt
  rw [ofInt?_eq_some_iff.1 h] at hlow hhigh
  exact Nat.lt_of_le_of_lt (show n.natAbs ≤ 2 ^ (63 : Nat) by omega) (by decide)

/-- An operation on two floats that are decimals. -/
theorem viaDecimals_eq {D : DecimalPackage} {x y : Float} {c d : Decimal} (hx : D.ofFloat x = some c)
    (hy : D.ofFloat y = some d) :
    op.viaDecimals D x y = match op.onDecimals D c d with
      | some r => ofDecimal D r
      | none => .float (op.onFloats x y) := by
  rw [viaDecimals, hx, hy]
  rfl

section Documented

variable {D : DecimalPackage} (hD : D.Documented)

include hD

/-- An operation on decimals without places has the exact result, or none if that is not in range. -/
theorem onDecimals_whole (hop : op.onInts? = some f) {m n : Int} {c d : Decimal} (hc : c.IsScaled m 0)
    (hd : d.IsScaled n 0) :
    ((f m n).natAbs < mantissaLimit →
      ∃ r, op.onDecimals D c d = some r ∧ D.toInt? r = some (f m n)) ∧
    (mantissaLimit ≤ (f m n).natAbs → op.onDecimals D c d = none) := by
  obtain ⟨rfl, hcscale⟩ := hc
  obtain ⟨rfl, hdscale⟩ := hd
  suffices h : Decimal.IsExactly (f c.unscaled d.unscaled) 0 (op.onDecimals D c d) ∨
      f c.unscaled d.unscaled = 0 ∧ ∃ r, op.onDecimals D c d = some r ∧ r.unscaled = 0 by
    obtain hexactly | ⟨hzero, r, hr, hunscaled⟩ := h
    · refine ⟨fun hlt => ?_, fun hle => hexactly.eq_none_of_le hle rfl⟩
      obtain ⟨r, hr, hscaled⟩ := hexactly.exists_of_lt hlt (Nat.zero_le _)
      exact ⟨r, hr, hD.toInt?_of_isScaled hscaled⟩
    · rw [hzero]
      exact ⟨fun _ => ⟨r, hr, hD.toInt?_of_zero hunscaled⟩, fun hle => absurd hle (by decide)⟩
  have hc := c.atScale_self
  have hd := d.atScale_self
  rw [hcscale] at hc
  rw [hdscale] at hd
  cases op with
  | add =>
    cases hop
    have hadd := hD.add c d
    rw [hcscale, hdscale, Nat.max_self, hc, hd] at hadd
    exact .inl hadd
  | sub =>
    cases hop
    have hsub := hD.sub c d
    rw [hcscale, hdscale, Nat.max_self, hc, hd] at hsub
    exact .inl hsub
  | mul =>
    cases hop
    by_cases hzero : c.unscaled * d.unscaled = 0
    · exact .inr ⟨hzero, hD.mul_zero hzero⟩
    · have hmul := hD.mul hzero
      rw [hcscale, hdscale] at hmul
      exact .inl hmul
  | div => cases hop
  | pow => cases hop

/-- An operation on whole floats that are not too large. -/
theorem viaDecimals_whole (hop : op.onInts? = some f) {x y : Float} {m n : Int} (hx : HoldsWhole x m)
    (hy : HoldsWhole y n) (hm : m.natAbs < mantissaLimit) (hn : n.natAbs < mantissaLimit) :
    (∀ k, ofInt? (f m n) = some k → op.viaDecimals D x y = .integer k) ∧
    (ofInt? (f m n) = none → ∃ z, op.viaDecimals D x y = .float z) := by
  obtain ⟨c, hc, hcscaled⟩ := hD.exists_ofFloat hx hm
  obtain ⟨d, hd, hdscaled⟩ := hD.exists_ofFloat hy hn
  obtain ⟨hfits, hlarge⟩ := onDecimals_whole hD hop hcscaled hdscaled
  rw [viaDecimals_eq hc hd]
  constructor
  · intro k hk
    obtain ⟨r, hr, hint⟩ := hfits (natAbs_lt_of_ofInt? hk)
    simp only [hr, ofDecimal, hint, Option.bind_some, hk]
  · intro hnone
    obtain hlt | hle := Nat.lt_or_ge (f m n).natAbs mantissaLimit
    · obtain ⟨r, hr, hint⟩ := hfits hlt
      refine ⟨D.toFloat r, ?_⟩
      simp only [hr, ofDecimal, hint, Option.bind_some, hnone]
    · refine ⟨op.onFloats x y, ?_⟩
      simp only [hlarge hle]

end Documented

/-- Integers are first tried as integers. -/
theorem applyBy_of_not_zeroDivision (D : DecimalPackage) {a b : Int64}
    (h : ¬(op = .div ∧ toFloat b == 0)) :
    op.applyBy D (.integer a) (.integer b) = .ok (match op.onIntegers a b with
      | some k => .integer k
      | none => op.viaDecimals D (toFloat a) (toFloat b)) := by
  rw [applyBy]
  refine (if_neg h).trans ?_
  cases op.onIntegers a b <;> rfl

theorem applyBy_integers (D : DecimalPackage) (hop : op.onInts? = some f) (a b : Int64) :
    op.applyBy D (.integer a) (.integer b) = .ok (match ofInt? (f a.toInt b.toInt) with
      | some k => .integer k
      | none => op.viaDecimals D (toFloat a) (toFloat b)) := by
  have hdiv : ¬(op = .div ∧ toFloat b == 0) := by
    rintro ⟨rfl, -⟩
    cases hop
  rw [applyBy_of_not_zeroDivision D hdiv, onIntegers_eq hop]

theorem applyOperator_numerals (op : Arithmetic) (a b : Numeral) :
    applyOperator op.operator a.toValue b.toValue = op.apply a b := by
  cases op <;> cases a <;> cases b <;> rfl

/-- On integers an operation that never leaves the whole numbers always has an answer. It is the
exact result if that fits into 64 bits, and otherwise the result on the nearest doubles: an integer
if this one fits, and a float if it does not. -/
theorem exists_applyBy_integers {D : DecimalPackage} (hD : D.Documented) (hop : op.onInts? = some f)
    (a b : Int64) :
    ∃ u, op.applyBy D (.integer a) (.integer b) = .ok u ∧
      (∀ k, ofInt? (f a.toInt b.toInt) = some k → u = .integer k) ∧
      (ofInt? (f a.toInt b.toInt) = none →
        (∀ k, ofInt? (f (nearest a.toInt) (nearest b.toInt)) = some k → u = .integer k) ∧
        (ofInt? (f (nearest a.toInt) (nearest b.toInt)) = none → ∃ x, u = .float x)) := by
  have hlimit (n : Int64) : (nearest n.toInt).natAbs < mantissaLimit :=
    Nat.lt_trans (natAbs_nearest_lt n) (by decide)
  refine ⟨_, applyBy_integers D hop a b, ?_, ?_⟩
  · intro k hk
    rw [hk]
  · intro hnone
    rw [hnone]
    exact viaDecimals_whole hD hop (holdsWhole_toFloat a) (holdsWhole_toFloat b) (hlimit a) (hlimit b)

/-- The answer is exact unless the result does not fit and that on the nearest doubles does. -/
theorem isExact_iff {D : DecimalPackage} (hD : D.Documented) (hop : op.onInts? = some f) {a b : Int64}
    {u : Value} (hu : op.applyBy D (.integer a) (.integer b) = .ok u) :
    u.IsExact (f a.toInt b.toInt) ↔ (ofInt? (f a.toInt b.toInt) = none →
      ofInt? (f (nearest a.toInt) (nearest b.toInt)) = none) := by
  obtain ⟨u', hu', hfits, hover⟩ := exists_applyBy_integers hD hop a b
  obtain rfl : u = u' := Except.ok.inj (hu.symm.trans hu')
  cases hexact : ofInt? (f a.toInt b.toInt) with
  | some k =>
    obtain rfl := hfits k hexact
    refine iff_of_true ⟨?_, ?_⟩ ?_
    · rintro r hr
      cases hr
      exact ofInt?_eq_some_iff.1 hexact
    · intro hnone
      rw [hexact] at hnone
      cases hnone
    · intro hnone
      cases hnone
  | none =>
    obtain ⟨hinteger, hfloat⟩ := hover hexact
    constructor
    · intro h _
      obtain ⟨x, rfl⟩ := h.float hexact
      cases hround : ofInt? (f (nearest a.toInt) (nearest b.toInt)) with
      | none => rfl
      | some k => cases hinteger k hround
    · intro h
      obtain ⟨x, rfl⟩ := hfloat (h rfl)
      refine ⟨?_, fun _ => ⟨x, rfl⟩⟩
      intro r hr
      cases hr

/-- Integers with up to 53 bits are doubles, and their answers are always exact. -/
theorem isExact_of_natAbs_lt {D : DecimalPackage} (hD : D.Documented) (hop : op.onInts? = some f)
    {a b : Int64} {u : Value} (ha : a.toInt.natAbs < 2 ^ (53 : Nat))
    (hb : b.toInt.natAbs < 2 ^ (53 : Nat)) (hu : op.applyBy D (.integer a) (.integer b) = .ok u) :
    u.IsExact (f a.toInt b.toInt) := by
  rw [isExact_iff hD hop hu, nearest_of_natAbs_lt ha, nearest_of_natAbs_lt hb]
  exact id

end Arithmetic

end Value

namespace Walk

open Value.Arithmetic

/-- All operators but the two that may leave out their right operand look at both. -/
theorem evaluate_binary_eq (w : Walk) {op : Operator} (hand : op ≠ .and) (hor : op ≠ .or)
    (left right : Expr) (v : Value) : w.evaluate (.binary op left right) v = (do
      let first ← w.evaluate left v
      let second ← w.evaluate right v
      first.applyOperator op second) := by
  simp only [evaluate, hand, hor, false_and, or_self, if_false]

/-- An operator that always looks at both its operands is applied to their values. -/
theorem evaluate_binary_of_ne (w : Walk) {op : Operator} (hand : op ≠ .and) (hor : op ≠ .or)
    {left right : Expr} {v first second : Value} (hleft : w.evaluate left v = .ok first)
    (hright : w.evaluate right v = .ok second) :
    w.evaluate (.binary op left right) v = first.applyOperator op second := by
  rw [w.evaluate_binary_eq hand hor, hleft, hright]
  rfl

theorem evaluate_binary_numerals (w : Walk) (op : Value.Arithmetic) {left right : Expr} {v : Value}
    {a b : Value.Numeral} (hleft : w.evaluate left v = .ok a.toValue)
    (hright : w.evaluate right v = .ok b.toValue) :
    w.evaluate (.binary op.operator left right) v = op.apply a b := by
  have hne : op.operator ≠ .and ∧ op.operator ≠ .or := by
    cases op <;> decide
  rw [w.evaluate_binary_of_ne hne.1 hne.2 hleft hright, applyOperator_numerals]

theorem evaluate_binary_integers (w : Walk) (op : Value.Arithmetic) {left right : Expr} {v : Value}
    {a b : Int64} (hleft : w.evaluate left v = .ok (.integer a))
    (hright : w.evaluate right v = .ok (.integer b)) :
    w.evaluate (.binary op.operator left right) v = op.apply (.integer a) (.integer b) :=
  w.evaluate_binary_numerals op hleft hright

/-- A sum, difference or product of integers always has an answer. It is exact, an integer only if
it is the result and a float if that does not fit into 64 bits, in all cases but one: the result
does not fit, but the result on the doubles nearest to the operands does, and is the answer. -/
theorem evaluate_binary_isExact_iff (w : Walk) {op : Value.Arithmetic} {f : Int → Int → Int}
    (hop : op.onInts? = some f) {left right : Expr} {v : Value} {a b : Int64}
    (hleft : w.evaluate left v = .ok (.integer a))
    (hright : w.evaluate right v = .ok (.integer b)) :
    ∃ u, w.evaluate (.binary op.operator left right) v = .ok u ∧
      (∀ k, ofInt? (f a.toInt b.toInt) = some k → u = .integer k) ∧
      (u.IsExact (f a.toInt b.toInt) ↔ (ofInt? (f a.toInt b.toInt) = none →
        ofInt? (f (nearest a.toInt) (nearest b.toInt)) = none)) ∧
      (∀ k, ofInt? (f a.toInt b.toInt) = none →
        ofInt? (f (nearest a.toInt) (nearest b.toInt)) = some k → u = .integer k) := by
  have hD := Decimal.documented
  obtain ⟨u, hu, hfits, hover⟩ := exists_applyBy_integers hD hop a b
  refine ⟨u, (w.evaluate_binary_integers op hleft hright).trans hu, hfits, isExact_iff hD hop hu, ?_⟩
  intro k hnone
  exact (hover hnone).1 k

/-- The sum is `2 ^ 63`, which `9223372036854775807` is rounded to, so that no way leads back to an
integer. -/
theorem evaluate_binary_isExact_of_limit :
    ∃ u, (start .standard .null).evaluate (.binary .add
        (.literal (.integer 9223372036854775807)) (.literal (.integer 1))) .null = .ok u ∧
      u.IsExact 9223372036854775808 := by
  obtain ⟨u, hu, -, hexact, -⟩ := @evaluate_binary_isExact_iff (start .standard .null) .add (· + ·)
    rfl (.literal (.integer 9223372036854775807)) (.literal (.integer 1)) .null
    9223372036854775807 1 rfl rfl
  exact ⟨u, hu, hexact.2 (by decide)⟩

/-- Here the sum is `2 ^ 63` as well, but rounding makes one operand smaller by 511 and the other by
one. -/
theorem evaluate_add_not_isExact :
    (start .standard .null).evaluate (.binary .add
        (.literal (.integer 4611686018427388415)) (.literal (.integer 4611686018427387393))) .null =
      .ok (.integer 9223372036854775296) ∧
    ¬(Value.integer 9223372036854775296).IsExact (4611686018427388415 + 4611686018427387393) := by
  constructor
  · obtain ⟨u, hu, -, hover⟩ := @exists_applyBy_integers .add (· + ·) _ Decimal.documented rfl
      4611686018427388415 4611686018427387393
    refine (evaluate_binary_integers _ .add rfl rfl).trans (hu.trans ?_)
    rw [(hover (by decide)).1 9223372036854775296 (by decide)]
  · intro h
    exact absurd (h.integer _ rfl) (by decide)

end Walk

end PathQuery
