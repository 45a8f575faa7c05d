import PathQuery.Proofs.DecimalFacts
import PathQuery.Proofs.FloatForm

/-!
# The form of a decimal

The decimal for a float has no zeros at the end of its fraction. For a whole float it is the same number
without a fraction or, from `2 ^ 96` on, there is none. The way back leads to the double that is nearest
to a whole decimal.
-/

namespace PathQuery.Number

open Float.Model Float.Model.UnpackedFloat

namespace Decimal

/-! ## Zeros at the end -/

theorem dropZeros_of_isReduced {m scale : Nat} (h : IsReduced m scale) :
    dropZeros m scale = (m, scale) := by
  cases scale with
  | zero => rfl
  | succ scale => exact if_neg (h.resolve_left (Nat.succ_ne_zero _))

theorem isReduced_of_dropZeros {m scale m' scale' : Nat} (h : dropZeros m scale = (m', scale')) :
    IsReduced m' scale' := by
  induction scale generalizing m with
  | zero =>
    cases h
    exact .inl rfl
  | succ scale ih =>
    rw [dropZeros] at h
    split at h
    · exact ih h
    · next hzero =>
      cases h
      exact .inr hzero

/-- Zeros that are written at the end are dropped again. -/
theorem dropZeros_mul (m scale j : Nat) : dropZeros (m * 10 ^ j) (scale + j) = dropZeros m scale := by
  induction j with
  | zero => rw [Nat.pow_zero, Nat.mul_one, Nat.add_zero]
  | succ j ih =>
    have hmul : m * 10 ^ (j + 1) = m * 10 ^ j * 10 := by rw [Nat.pow_succ, Nat.mul_assoc]
    rw [← Nat.add_assoc, dropZeros, hmul, if_pos (Nat.mul_mod_left _ 10),
      Nat.mul_div_cancel _ (by decide), ih]

/-- The number of digits is limited twice, and then zeros are dropped. -/
def settle (m scale : Nat) : Nat × Nat :=
  let (m, scale) := limitScale m scale
  let (m, scale) := limitPrecision m scale
  dropZeros m scale

theorem ofBinary_of_nonpos (negative : Bool) {m m' : Nat} {e e' : Int} (he : e ≤ 0)
    (h : absorbHalves (-e).toNat (m, e) = (m', e')) : ofBinary negative m e =
      (absorbTens e'.toNat m').bind fun m =>
        ofParts? negative (settle m (-e').toNat).1 (settle m (-e').toNat).2 := by
  rw [ofBinary, if_pos he, h]
  rfl

theorem ofBinary_of_pos (negative : Bool) {m : Nat} {e : Int} (he : 0 < e) : ofBinary negative m e =
    (absorbFifths e.toNat (m, e)).bind fun state => (absorbTens state.2.toNat state.1).bind fun m =>
      ofParts? negative (settle m (-state.2).toNat).1 (settle m (-state.2).toNat).2 := by
  rw [ofBinary, if_neg (by omega)]
  rfl

theorem isReduced_of_ofBinary {negative : Bool} {m : Nat} {e : Int} {d : Decimal}
    (h : ofBinary negative m e = some d) : IsReduced d.mantissa d.scale := by
  obtain ⟨m', scale, hparts⟩ : ∃ m' scale,
      ofParts? negative (settle m' scale).1 (settle m' scale).2 = some d := by
    by_cases he : e ≤ 0
    · obtain ⟨state, hstate⟩ : ∃ state, absorbHalves (-e).toNat (m, e) = state := ⟨_, rfl⟩
      rw [ofBinary_of_nonpos negative he hstate] at h
      obtain ⟨m', -, hparts⟩ := Option.bind_eq_some_iff.1 h
      exact ⟨_, _, hparts⟩
    · rw [ofBinary_of_pos negative (by omega)] at h
      obtain ⟨state, -, h⟩ := Option.bind_eq_some_iff.1 h
      obtain ⟨m', -, hparts⟩ := Option.bind_eq_some_iff.1 h
      exact ⟨_, _, hparts⟩
  obtain ⟨-, hm, hscale⟩ := ofParts?_eq_some.1 hparts
  rw [hm, hscale]
  exact isReduced_of_dropZeros rfl

theorem isReduced_of_ofFloat {x : Float} {d : Decimal} (h : ofFloat x = some d) :
    IsReduced d.mantissa d.scale := by
  unfold ofFloat at h
  split at h
  · cases h
    exact .inl rfl
  · exact isReduced_of_ofBinary h
  · cases h

/-! ## Whole floats -/

/-- Halvings are taken back as long as the mantissa is even. -/
theorem absorbHalves_mul_two_pow (count m : Nat) (e : Int) :
    absorbHalves count (m * 2 ^ count, e) = (m, e + count) := by
  induction count generalizing e with
  | zero => simp [absorbHalves]
  | succ count ih =>
    have hmul : m * 2 ^ (count + 1) = 2 * (m * 2 ^ count) := by
      rw [Nat.pow_succ, ← Nat.mul_assoc, Nat.mul_comm]
    rw [absorbHalves, hmul, if_pos (by omega), Nat.mul_div_cancel_left _ (by decide), ih]
    simp [Int.add_comm, Int.add_left_comm]

/-- Doublings are carried out while there is room. -/
theorem absorbFifths_of_lt {count m : Nat} {e : Int} (h : m * 2 ^ count < mantissaLimit) :
    absorbFifths count (m, e) = some (m * 2 ^ count, e - count) := by
  induction count generalizing m e with
  | zero => simp [absorbFifths]
  | succ count ih =>
    have hmul : m * 2 ^ (count + 1) = 2 * m * 2 ^ count := by
      rw [Nat.pow_succ, ← Nat.mul_assoc, Nat.mul_comm, Nat.mul_assoc]
    rw [hmul] at h ⊢
    have hroom : m < mantissaLimit / 2 := by
      have hle := Nat.le_mul_of_pos_right (2 * m) (Nat.two_pow_pos count)
      unfold mantissaLimit at h ⊢
      omega
    rw [absorbFifths, if_pos hroom, ih h]
    simp [Int.sub_sub, Int.add_comm]

/-- A whole number has no places after the point. -/
theorem ofBinary_of_whole {m n : Nat} {e : Int} (hvalue : m * 2 ^ e.toNat = n * 2 ^ (-e).toNat)
    (hn : n < mantissaLimit) (negative : Bool) : ofBinary negative m e = ofParts? negative n 0 := by
  obtain he | he := Int.lt_or_le 0 e
  · have hzero : (-e).toNat = 0 := by omega
    have hexponent : e - (e.toNat : Int) = 0 := by omega
    rw [hzero, Nat.pow_zero, Nat.mul_one] at hvalue
    rw [ofBinary, if_neg (by omega), absorbFifths_of_lt (hvalue ▸ hn), hvalue, hexponent]
    rfl
  · have hzero : e.toNat = 0 := by omega
    have hexponent : e + ((-e).toNat : Int) = 0 := by omega
    rw [hzero, Nat.pow_zero, Nat.mul_one] at hvalue
    rw [ofBinary, if_pos he, hvalue, absorbHalves_mul_two_pow, hexponent]
    rfl

end Decimal

/-- Whether a float is negative zero or zero makes no difference. -/
theorem beq_neg_ofNat_zero (x : Float) : (x == -Float.ofNat 0) = (x == Float.ofNat 0) := by
  have hzero : (Float.ofNat 0).toModel.unpack = .zero .positive := rfl
  have hneg : (-Float.ofNat 0).toModel.unpack = .zero .negative := rfl
  show Float.Model.UnpackedFloat.beq x.toModel.unpack (-Float.ofNat 0).toModel.unpack =
    Float.Model.UnpackedFloat.beq x.toModel.unpack (Float.ofNat 0).toModel.unpack
  rw [hzero, hneg]
  cases x.toModel.unpack with
  | infinity s => cases s <;> rfl
  | notANumber => rfl
  | zero s => rfl
  | finite s m e hm => cases s <;> rfl

/-- A mantissa that doubles beyond what a decimal holds. -/
theorem Decimal.absorbFifths_eq_none {count m : Nat} (hm : m < mantissaLimit)
    (h : mantissaLimit ≤ m * 2 ^ count) : absorbFifths count (m, count) = none := by
  induction count generalizing m with
  | zero =>
    rw [Nat.pow_zero, Nat.mul_one] at h
    omega
  | succ count ih =>
    rw [absorbFifths]
    by_cases hroom : m < mantissaLimit / 2
    · have hexponent : ((count + 1 : Nat) : Int) - 1 = count := by omega
      have hmul : 2 * m * 2 ^ count = m * 2 ^ (count + 1) := by
        rw [Nat.pow_succ, Nat.mul_comm 2, Nat.mul_assoc, Nat.mul_comm 2]
      rw [if_pos hroom, hexponent]
      exact ih (by omega) (hmul ▸ h)
    · rw [if_neg hroom, if_pos (by omega)]

/-- Zeros after the first 53 bits are kept. -/
theorem roundBits_mul_two_pow {m : Nat} (hm : m < 2 ^ (53 : Nat)) (j : Nat) :
    roundBits (m * 2 ^ j) = m * 2 ^ j := by
  by_cases hzero : m = 0
  · rw [hzero, Nat.zero_mul]
    rfl
  · have hlog : m.log2 < 53 := (Nat.log2_lt hzero).2 hm
    obtain ⟨i, hi⟩ : ∃ i, j = i + ((m * 2 ^ j).log2 - 52) := by
      refine ⟨j - ((m * 2 ^ j).log2 - 52), ?_⟩
      rw [log2_mul_two_pow hzero]
      omega
    rw [roundBits]
    generalize (m * 2 ^ j).log2 - 52 = count at hi
    rw [hi, Nat.pow_add, ← Nat.mul_assoc, divHalfEven_mul_self (Nat.two_pow_pos count)]

theorem StandsFor.unique {s : Sign} {n : Nat} {u u' : UnpackedFloat} (hn : n ≠ 0)
    (h : StandsFor s n u) (h' : StandsFor s n u') : u = u' := by
  cases h with
  | @finite m e hm hlog hlow hhigh hvalue =>
    cases h' with
    | @finite m' e' hm' hlog' hlow' hhigh' hvalue' =>
      have hbits := congrArg Nat.log2 hvalue
      have hbits' := congrArg Nat.log2 hvalue'
      rw [log2_mul_two_pow (by omega), log2_mul_two_pow hn] at hbits hbits'
      obtain rfl : e = e' := by omega
      obtain rfl : m = m' := Nat.eq_of_mul_eq_mul_right (Nat.two_pow_pos _) (hvalue.trans hvalue'.symm)
      rfl

theorem beq_of_unpack_eq {x y : Float} (h : x.toModel.unpack = y.toModel.unpack)
    (hx : x.isFinite = true) : (x == y) = true := by
  have hfinite : x.toModel.unpack.isFinite = true := hx
  show UnpackedFloat.beq x.toModel.unpack y.toModel.unpack = true
  rw [← h]
  cases hu : x.toModel.unpack with
  | infinity s =>
    rw [hu] at hfinite
    cases hfinite
  | notANumber =>
    rw [hu] at hfinite
    cases hfinite
  | zero s => rfl
  | finite s m e hm => exact beq_self hm

/-- Whether a sign is the minus sign. -/
def isMinus (s : Sign) : Bool :=
  s matches .negative

theorem Decimal.ofFloat_finite {x : Float} {s : Sign} {m : Nat} {e : Int} {hm : 0 < m}
    (hx : x.toModel.unpack = .finite s m e hm) : ofFloat x = ofBinary (isMinus s) m e := by
  rw [ofFloat, hx]
  rfl

section Whole

variable {s : Sign} {m n : Nat} {e : Int} {hm : 0 < m}

/-- Only what is not too large has a decimal. -/
theorem Decimal.lt_of_ofBinary {negative : Bool} {d : Decimal} (h : IsCanonical m e)
    (hvalue : m * 2 ^ e.toNat = n * 2 ^ (-e).toNat) (hd : ofBinary negative m e = some d) :
    n < mantissaLimit := by
  have hmantissa : m < mantissaLimit := Nat.lt_trans h.mantissa_lt (by decide)
  refine Nat.not_le.1 fun hlarge => ?_
  obtain he | he := Int.lt_or_le 0 e
  · have hexponent : (m, e) = (m, (e.toNat : Int)) := by rw [Int.toNat_of_nonneg (by omega)]
    have hzero : (-e).toNat = 0 := by omega
    rw [hzero, Nat.pow_zero, Nat.mul_one] at hvalue
    rw [ofBinary_of_pos negative he, hexponent, absorbFifths_eq_none hmantissa (hvalue ▸ hlarge)] at hd
    cases hd
  · have hzero : e.toNat = 0 := by omega
    have hle := Nat.le_mul_of_pos_right n (Nat.two_pow_pos (-e).toNat)
    rw [hzero, Nat.pow_zero, Nat.mul_one] at hvalue
    omega

theorem roundBits_of_whole (hmantissa : m < 2 ^ (53 : Nat))
    (hvalue : m * 2 ^ e.toNat = n * 2 ^ (-e).toNat) : roundBits n = n := by
  obtain he | he := Int.lt_or_le e 0
  · have hzero : e.toNat = 0 := by omega
    have hle := Nat.le_mul_of_pos_right n (Nat.two_pow_pos (-e).toNat)
    rw [hzero, Nat.pow_zero, Nat.mul_one] at hvalue
    exact roundBits_of_lt (by omega)
  · have hzero : (-e).toNat = 0 := by omega
    rw [hzero, Nat.pow_zero, Nat.mul_one] at hvalue
    rw [← hvalue]
    exact roundBits_mul_two_pow hmantissa e.toNat

theorem IsCanonical.standsFor (h : IsCanonical m e) (hn : n < mantissaLimit)
    (hvalue : m * 2 ^ e.toNat = n * 2 ^ (-e).toNat) : StandsFor s n (.finite s m e hm) := by
  obtain ⟨hmantissa, hlow, -, hnormal⟩ := h
  have hpos : 0 < n := by
    refine Nat.pos_of_ne_zero fun hzero => ?_
    rw [hzero, Nat.zero_mul] at hvalue
    have hfactor := Nat.two_pow_pos e.toNat
    exact absurd hvalue (Nat.mul_ne_zero (by omega) (by omega))
  have hleast : e ≠ -1074 := by
    intro hleast
    have hzero : e.toNat = 0 := by omega
    have hpow : 2 ^ (53 : Nat) ≤ 2 ^ (-e).toNat := Nat.pow_le_pow_right (by decide) (by omega)
    have hle : 2 ^ (-e).toNat ≤ n * 2 ^ (-e).toNat := Nat.le_mul_of_pos_left _ hpos
    rw [hzero, Nat.pow_zero, Nat.mul_one] at hvalue
    omega
  have hgreatest : e ≤ 970 := by
    refine Int.not_lt.1 fun hlarge => ?_
    have hzero : (-e).toNat = 0 := by omega
    have hle : 2 ^ e.toNat ≤ m * 2 ^ e.toNat := Nat.le_mul_of_pos_left _ hm
    have hlimit : mantissaLimit < 2 ^ e.toNat := Nat.pow_lt_pow_right (by decide) (by omega)
    rw [hzero, Nat.pow_zero, Nat.mul_one] at hvalue
    omega
  exact .finite hm ((Nat.log2_eq_iff (by omega)).2 ⟨hnormal hleast, hmantissa⟩) hlow hgreatest hvalue

end Whole

theorem natAbs_apply (s : Sign) (n : Nat) : (s.apply n).natAbs = n := by
  cases s with
  | negative => exact Int.natAbs_neg n
  | positive => rfl

/-- Only what is not too large has a decimal, and this is the same number. -/
theorem HoldsWhole.isExactly_ofFloat {x : Float} {k : Int} (h : HoldsWhole x k) :
    Decimal.IsExactly k 0 (Decimal.ofFloat x) := by
  cases h with
  | zero hx =>
    rw [Decimal.ofFloat, hx]
    exact ⟨fun _ _ => ⟨Decimal.zero, rfl, rfl, rfl⟩, fun hle => absurd hle (by decide)⟩
  | @finite s m n e hm hx hvalue =>
    rw [Decimal.ofFloat_finite hx]
    have habs := natAbs_apply s n
    constructor
    · intro hn hscale
      rw [habs] at hn
      rw [Decimal.ofBinary_of_whole hvalue hn]
      refine ⟨⟨isMinus s, n, 0, hn, hscale⟩, dif_pos ⟨hn, hscale⟩, ?_, rfl⟩
      cases s <;> rfl
    · intro hlarge _
      rw [habs] at hlarge
      refine Option.eq_none_iff_forall_ne_some.2 fun d hd => ?_
      exact Nat.not_lt.2 hlarge (Decimal.lt_of_ofBinary (isCanonical_of_unpack hx) hvalue hd)

/-- A whole float is the double nearest to its number. -/
theorem HoldsWhole.beq_ofInt {x : Float} {k : Int} (h : HoldsWhole x k)
    (hk : k.natAbs < mantissaLimit) : (x == Float.ofInt k) = true := by
  cases h with
  | zero hx =>
    show UnpackedFloat.beq x.toModel.unpack (Float.ofInt 0).toModel.unpack = true
    rw [hx]
    rfl
  | @finite s m n e hm hx hvalue =>
    have habs := natAbs_apply s n
    have hne : n ≠ 0 := by
      rintro rfl
      have hfactor := Nat.two_pow_pos e.toNat
      rw [Nat.zero_mul] at hvalue
      exact absurd hvalue (Nat.mul_ne_zero (by omega) (by omega))
    have hcanonical : IsCanonical m e := isCanonical_of_unpack hx
    have hlog : n.log2 < 96 := (Nat.log2_lt hne).2 (habs ▸ hk)
    have hsign : signOf (s.apply n) = s := by
      cases s with
      | negative => exact if_pos (show -(n : Int) < 0 by omega)
      | positive => exact if_neg (show ¬(n : Int) < 0 by omega)
    have hnearest := standsFor_ofInt (n := s.apply n) (by omega) (by rw [habs]; omega)
    rw [habs, roundBits_of_whole hcanonical.mantissa_lt hvalue, hsign] at hnearest
    refine beq_of_unpack_eq ?_ (congrArg UnpackedFloat.isFinite hx)
    rw [hx]
    exact (hcanonical.standsFor (habs ▸ hk) hvalue).unique hne hnearest

/-- A whole decimal becomes the double nearest to it, the sign of zero apart. -/
theorem Decimal.beq_toFloat {d : Decimal} {n : Int} (x : Float) (h : d.toInt? = some n) :
    (x == d.toFloat) = (x == Float.ofInt n) := by
  unfold toInt? at h
  split at h
  · next hrest =>
    have hmagnitude : d.magnitude = Float.ofNat (d.mantissa / 10 ^ d.scale) := by
      rw [magnitude]
      exact if_pos hrest
    rw [← Option.some.inj h, toFloat, hmagnitude]
    cases d.negative with
    | false => rfl
    | true =>
      generalize d.mantissa / 10 ^ d.scale = whole
      cases whole with
      | zero => exact beq_neg_ofNat_zero x
      | succ whole => rfl
  · cases h

end PathQuery.Number
