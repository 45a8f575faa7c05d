import PathQuery.Proofs.IntegerQuotient
import PathQuery.Proofs.ShortDecimal

/-!
# Neutral operands

Zero that is added or taken away and one that multiplies or divides leave an integer as it is. A float
goes through its decimal. The operation does nothing to that, whichever package of decimals it is, so the
answer is equal to the float just when this comes back from its decimal. Whole floats always do. Others
may be cut: the decimal of `1e-30` is zero, and so is `1e-30 + 0`.
-/

namespace PathQuery

open Number

namespace Value

open Float.Model Float.Model.UnpackedFloat

/-- An integer, or a float that is neither infinite nor no number. -/
def Numeral.IsFinite : Numeral → Prop
  | .integer _ => True
  | .float x => x.isFinite = true

/-- A number that its decimal does not change. Integers do not become decimals, and some floats have
none. -/
def Numeral.ComesBack (D : DecimalPackage) : Numeral → Prop
  | .integer _ => True
  | .float x => ∀ d, D.ofFloat x = some d → (x == D.toFloat d) = true

namespace Arithmetic

/-- The right operand that should change nothing. -/
def neutral? : Arithmetic → Option Int64
  | .add | .sub => some 0
  | .mul | .div => some 1
  | .pow => none

variable {op : Arithmetic} {c : Int64}

theorem onIntegers_neutral (hop : op.neutral? = some c) (k : Int64) : op.onIntegers k c = some k := by
  cases op <;> cases hop <;> simp [onIntegers, Int.tmod_one, Int.tdiv_one]

/-- The exact operation whose result a float operation packs. -/
def onUnpacked (a b : UnpackedFloat) : Arithmetic → UnpackedFloat
  | .add => a.add .binary64 b
  | .sub => a.sub .binary64 b
  | .mul => a.mul .binary64 b
  | .div => a.div .binary64 b
  | .pow => .notANumber

theorem onUnpacked_neutral (hop : op.neutral? = some c) {s : Sign} {m : Nat} {e : Int} {hm : 0 < m}
    (h : IsCanonical m e) :
    op.onUnpacked (.finite s m e hm) (toFloat c).toModel.unpack = .finite s m e hm := by
  cases op with
  | add =>
    cases hop
    rfl
  | sub =>
    cases hop
    rfl
  | mul =>
    cases hop
    exact h.mul_one
  | div =>
    cases hop
    exact h.div_one
  | pow => cases hop

/-- Operations on floats respect neutral operands. -/
theorem onFloats_neutral (hop : op.neutral? = some c) {x : Float} (hx : x.isFinite = true) :
    (x == op.onFloats x (toFloat c)) = true := by
  have hfinite : x.toModel.unpack.isFinite = true := hx
  have hpack : (op.onFloats x (toFloat c)).toModel =
      Float.Model.pack (op.onUnpacked x.toModel.unpack (toFloat c).toModel.unpack) := by
    cases op with
    | pow => cases hop
    | _ => rfl
  show UnpackedFloat.beq x.toModel.unpack (op.onFloats x (toFloat c)).toModel.unpack = true
  rw [hpack]
  cases hu : x.toModel.unpack with
  | infinity s =>
    rw [hu] at hfinite
    cases hfinite
  | notANumber =>
    rw [hu] at hfinite
    cases hfinite
  | zero s => cases op <;> cases hop <;> cases s <;> rfl
  | finite s m e hm =>
    have hcanonical : IsCanonical m e := isCanonical_of_unpack hu
    rw [onUnpacked_neutral hop hcanonical, hcanonical.unpack_pack]
    exact beq_self hm

theorem not_zeroDivision_neutral (hop : op.neutral? = some c) : ¬(op = .div ∧ toFloat c == 0) := by
  rintro ⟨rfl, hzero⟩
  cases hop
  rw [toFloat_beq_zero (by decide)] at hzero
  cases hzero

theorem exists_numeral_ofDecimal (D : DecimalPackage) (d : Decimal) :
    ∃ b : Numeral, ofDecimal D d = b.toValue := by
  unfold ofDecimal
  split
  · next n _ => exact ⟨.integer n, rfl⟩
  · exact ⟨.float (D.toFloat d), rfl⟩

section Documented

variable {D : DecimalPackage} (hD : D.Documented)

include hD

/-- Operations on decimals respect neutral operands. -/
theorem exists_onDecimals_neutral (hop : op.neutral? = some c) {x : Float} {d : Decimal}
    (hd : D.ofFloat x = some d) :
    ∃ z r, D.ofFloat (toFloat c) = some z ∧ op.onDecimals D d z = some r ∧ d.IsSame r := by
  have hnearest : nearest c.toInt = c.toInt := by
    cases op <;> cases hop <;> decide
  have hlimit : c.toInt.natAbs < mantissaLimit := by
    cases op <;> cases hop <;> decide
  obtain ⟨z, hz, hunscaled, hscale⟩ := hD.exists_ofFloat (hnearest ▸ holdsWhole_toFloat c) hlimit
  have hd_lt := d.natAbs_unscaled_lt
  suffices h : ∃ r, op.onDecimals D d z = some r ∧ d.IsSame r by
    obtain ⟨r, hr, hsame⟩ := h
    exact ⟨z, r, hz, hr, hsame⟩
  have hmax : max d.scale z.scale = d.scale := by omega
  cases op with
  | add =>
    cases hop
    have hadd := hD.add d z
    rw [hmax, d.atScale_self, z.atScale_of_zero hunscaled, Int.add_zero] at hadd
    obtain ⟨r, hr, hscaled⟩ := hadd.exists_of_lt hd_lt d.scale_le
    exact ⟨r, hr, hscaled.isSame⟩
  | sub =>
    cases hop
    have hsub := hD.sub d z
    rw [hmax, d.atScale_self, z.atScale_of_zero hunscaled, Int.sub_zero] at hsub
    obtain ⟨r, hr, hscaled⟩ := hsub.exists_of_lt hd_lt d.scale_le
    exact ⟨r, hr, hscaled.isSame⟩
  | mul =>
    cases hop
    have hproduct : d.unscaled * z.unscaled = d.unscaled := by
      rw [hunscaled]
      exact Int.mul_one _
    by_cases hzero : d.unscaled = 0
    · obtain ⟨r, hr, hrzero⟩ := hD.mul_zero (hproduct.trans hzero)
      exact ⟨r, hr, .inr ⟨hzero, hrzero⟩⟩
    · have hmul := hD.mul (hproduct.symm ▸ hzero)
      rw [hproduct, hscale, Nat.add_zero] at hmul
      obtain ⟨r, hr, hscaled⟩ := hmul.exists_of_lt hd_lt d.scale_le
      exact ⟨r, hr, hscaled.isSame⟩
  | div =>
    cases hop
    have hone : z.unscaled = 1 := hunscaled
    have hreduced := hD.ofFloat_reduced hd
    rw [← d.natAbs_unscaled] at hreduced
    obtain ⟨r, hr, hscaled⟩ := hD.div_exact (a := d) (b := z) (by omega) hd_lt d.scale_le hreduced
      (by rw [hone, hscale, Nat.zero_add, Int.mul_one])
    exact ⟨r, hr, hscaled.isSame⟩
  | pow => cases hop

theorem ofDecimal_of_isSame {d r : Decimal} (h : d.IsSame r) : ofDecimal D r = ofDecimal D d := by
  obtain rfl | ⟨hd, hr⟩ := h
  · rfl
  · rw [ofDecimal, ofDecimal, hD.toInt?_of_zero hd, hD.toInt?_of_zero hr]
    rfl

/-- To a float a decimal is equal if the double it becomes is. -/
theorem looseEq_ofDecimal (x : Float) (d : Decimal) :
    (Value.float x).looseEq (ofDecimal D d) = (x == D.toFloat d) := by
  cases hvalue : (D.toInt? d).bind ofInt? with
  | none =>
    rw [ofDecimal, hvalue]
    dsimp only
    rw [looseEq]
  | some k =>
    obtain ⟨n, hn, hk⟩ := Option.bind_eq_some_iff.1 hvalue
    obtain rfl := ofInt?_eq_some_iff.1 hk
    rw [ofDecimal, hvalue]
    dsimp only
    rw [looseEq]
    exact (hD.beq_toFloat x hn).symm

/-- A whole float is the same number as a decimal, if it has one. -/
theorem comesBack_of_holdsWhole {x : Float} {k : Int} (hx : HoldsWhole x k) :
    (Numeral.float x).ComesBack D := by
  intro d hd
  have hwhole := hD.ofFloat_whole hx
  obtain hlt | hle := Nat.lt_or_ge k.natAbs mantissaLimit
  · obtain ⟨d', hd', hscaled⟩ := hwhole.exists_of_lt hlt (Nat.zero_le _)
    obtain rfl : d' = d := Option.some.inj (hd'.symm.trans hd)
    rw [hD.beq_toFloat x (hD.toInt?_of_isScaled hscaled)]
    exact hx.beq_ofInt hlt
  · rw [hwhole.eq_none_of_le hle rfl] at hd
    cases hd

/-- A float with a neutral operand is kept if it comes back from its decimal. -/
theorem exists_viaDecimals_neutral (hop : op.neutral? = some c) {x : Float} (hx : x.isFinite = true) :
    ∃ b : Numeral, op.viaDecimals D x (toFloat c) = b.toValue ∧
      ((Value.float x).looseEq b.toValue = true ↔ (Numeral.float x).ComesBack D) := by
  cases hd : D.ofFloat x with
  | none =>
    have hvia : op.viaDecimals D x (toFloat c) = .float (op.onFloats x (toFloat c)) := by
      rw [viaDecimals, hd]
      rfl
    refine ⟨.float (op.onFloats x (toFloat c)), hvia, iff_of_true ?_ ?_⟩
    · exact (looseEq.eq_def ..).trans (onFloats_neutral hop hx)
    · intro d hd'
      rw [hd] at hd'
      cases hd'
  | some d =>
    obtain ⟨z, r, hz, hr, hsame⟩ := exists_onDecimals_neutral hD hop hd
    obtain ⟨b, hb⟩ := exists_numeral_ofDecimal D d
    have hvia : op.viaDecimals D x (toFloat c) = b.toValue := by
      rw [viaDecimals_eq hd hz, hr]
      exact (ofDecimal_of_isSame hD hsame).trans hb
    refine ⟨b, hvia, ?_⟩
    rw [← hb, looseEq_ofDecimal hD]
    constructor
    · intro h d' hd'
      rw [hd] at hd'
      exact Option.some.inj hd' ▸ h
    · intro h
      exact h d hd

/-- A number with a neutral operand: an integer stays, and a float is kept if it comes back from its
decimal. -/
theorem exists_applyBy_neutral (hop : op.neutral? = some c) {a : Numeral} (ha : a.IsFinite) :
    ∃ b : Numeral, op.applyBy D a (.integer c) = .ok b.toValue ∧
      (∀ k, a = .integer k → b = a) ∧
      (a.toValue.looseEq b.toValue = true ↔ a.ComesBack D) := by
  cases a with
  | integer k =>
    have hself : (toFloat k == toFloat k) = true := beq_of_unpack_eq rfl (isFinite_toFloat k)
    refine ⟨.integer k, ?_, fun _ _ => rfl, iff_of_true ?_ trivial⟩
    · rw [applyBy_of_not_zeroDivision D (not_zeroDivision_neutral hop), onIntegers_neutral hop]
      rfl
    · exact (looseEq.eq_def ..).trans hself
  | float x =>
    have happly : op.applyBy D (.float x) (.integer c) = .ok (op.viaDecimals D x (toFloat c)) :=
      if_neg (not_zeroDivision_neutral hop)
    obtain ⟨b, hb, hiff⟩ := exists_viaDecimals_neutral hD hop ha
    refine ⟨b, happly.trans (congrArg _ hb), fun k hk => ?_, hiff⟩
    cases hk

end Documented

/-- A float that is read from a short number comes back. -/
theorem comesBack_of_holdsShort {x : Float} {p places : Nat} (hx : HoldsShort x p places) :
    (Numeral.float x).ComesBack Decimal.package :=
  fun _ hd => hx.beq_toFloat hd

end Arithmetic

end Value

namespace Walk

open Value

/-- With a neutral operand an integer is kept, and a float just if it comes back from its decimal. Floats
that hold a whole number do. -/
theorem evaluate_neutral (w : Walk) {op : Value.Arithmetic} {c : Int64} (hop : op.neutral? = some c)
    {left right : Expr} {v : Value} {a : Numeral} (ha : a.IsFinite)
    (hleft : w.evaluate left v = .ok a.toValue) (hright : w.evaluate right v = .ok (.integer c)) :
    ∃ b : Numeral, w.evaluate (.binary op.operator left right) v = .ok b.toValue ∧
      (∀ k, a = .integer k → b = a) ∧
      (a.toValue.looseEq b.toValue = true ↔ a.ComesBack Decimal.package) ∧
      (∀ x k, a = .float x → HoldsWhole x k → a.toValue.looseEq b.toValue = true) := by
  obtain ⟨b, hb, hinteger, hiff⟩ := Arithmetic.exists_applyBy_neutral Decimal.documented hop ha
  refine ⟨b, (w.evaluate_binary_numerals op hleft hright).trans hb, hinteger, hiff, ?_⟩
  rintro x k rfl hx
  exact hiff.2 (Arithmetic.comesBack_of_holdsWhole Decimal.documented hx)

/-- A whole float that is too large for an integer, and one that is a short number. -/
theorem evaluate_neutral_of_holds :
    (∃ b : Numeral, (start .standard .null).evaluate (.binary .div
        (.literal (.float 1e22)) (.literal (.integer 1))) .null = .ok b.toValue ∧
      (Value.float 1e22).looseEq b.toValue = true) ∧
    ∃ b : Numeral, (start .standard .null).evaluate (.binary .add
        (.literal (.float 0.1)) (.literal (.integer 0))) .null = .ok b.toValue ∧
      (Value.float 0.1).looseEq b.toValue = true := by
  have hlarge : HoldsWhole 1e22 10000000000000000000000 :=
    @HoldsWhole.finite _ .positive 4768371582031250 _ 21 (by decide) rfl rfl
  have hshort : HoldsShort 0.1 1 1 := by
    refine ⟨⟨by decide, by decide, by decide, by decide, fun i hi => ?_⟩, .inl rfl⟩
    obtain hlt | hle := Nat.lt_or_ge 15 i
    · have hpower : 10 ^ (16 : Nat) ≤ 10 ^ i := Nat.pow_le_pow_right (by decide) hlt
      omega
    · have hpower : 10 ^ i ≤ 10 ^ (15 : Nat) := Nat.pow_le_pow_right (by decide) hle
      omega
  obtain ⟨b, hb, -, -, hwhole⟩ := @evaluate_neutral (start .standard .null) .div 1 rfl
    (.literal (.float 1e22)) (.literal (.integer 1)) .null (.float 1e22) rfl rfl rfl
  obtain ⟨b', hb', -, hkept, -⟩ := @evaluate_neutral (start .standard .null) .add 0 rfl
    (.literal (.float 0.1)) (.literal (.integer 0)) .null (.float 0.1) rfl rfl rfl
  exact ⟨⟨b, hb, hwhole _ _ rfl hlarge⟩,
    ⟨b', hb', hkept.2 (Value.Arithmetic.comesBack_of_holdsShort hshort)⟩⟩

/-- A float that is too small for 28 places becomes zero. -/
theorem evaluate_neutral_not_looseEq :
    (start .standard .null).evaluate (.binary .add
        (.literal (.float 1e-30)) (.literal (.integer 0))) .null = .ok (.integer 0) ∧
    (Value.float 1e-30).looseEq (.integer 0) = false := by
  have hsmall : Decimal.package.ofFloat 1e-30 = some Decimal.zero := by decide +kernel
  have hzero : Decimal.package.ofFloat (toFloat 0) = some Decimal.zero := by decide +kernel
  have hvia : Value.Arithmetic.add.viaDecimals Decimal.package 1e-30 (toFloat 0) = .integer 0 :=
    Value.Arithmetic.viaDecimals_eq hsmall hzero
  constructor
  · exact (evaluate_binary_numerals _ .add (a := .float 1e-30) (b := .integer 0) rfl rfl).trans
      (congrArg Except.ok hvia)
  · rw [Value.looseEq]
    decide +kernel

end Walk

end PathQuery
