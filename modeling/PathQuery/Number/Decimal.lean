import PathQuery.Number.Binary

/-!
# Decimals with 28 places

A `Decimal` is a signed whole number below `2 ^ 96` divided by a power of ten up to `10 ^ 28`.
Sums, products and quotients are exact as long as they fit; otherwise the fewest last digits
are dropped, and one rounding takes a half to the even neighbour.
-/

namespace PathQuery.Number

/-- The least whole number that a decimal cannot hold. -/
def mantissaLimit : Nat := 2 ^ (96 : Nat)

/-- The greatest number of places after the point. -/
def maxScale : Nat := 28

/-- The number `mantissa / 10 ^ scale`, negated if `negative`. -/
structure Decimal where
  negative : Bool
  mantissa : Nat
  scale : Nat
  mantissa_lt : mantissa < mantissaLimit
  scale_le : scale ≤ maxScale
deriving DecidableEq

/-- The quotient of two naturals to the nearest whole number, a half to the even one. -/
def divHalfEven (n d : Nat) : Nat :=
  let q := n / d
  let r := 2 * (n % d)
  if r < d then q else if d < r then q + 1 else if q % 2 = 0 then q else q + 1

/-- The tenth of a number, rounded by its last digit, a half upwards. -/
def tenthHalfUp (n : Nat) : Nat :=
  if 5 ≤ n % 10 then n / 10 + 1 else n / 10

namespace Decimal

/-- The decimal with these parts, if they are in range. -/
def ofParts? (negative : Bool) (mantissa scale : Nat) : Option Decimal :=
  if h : mantissa < mantissaLimit ∧ scale ≤ maxScale then
    some ⟨negative, mantissa, scale, h.1, h.2⟩
  else none

theorem ofParts?_eq_some {negative : Bool} {m scale : Nat} {d : Decimal} :
    ofParts? negative m scale = some d ↔
      d.negative = negative ∧ d.mantissa = m ∧ d.scale = scale := by
  obtain ⟨negative', m', scale', hm, hscale⟩ := d
  constructor
  · intro h
    unfold ofParts? at h
    split at h
    · cases h
      exact ⟨rfl, rfl, rfl⟩
    · cases h
  · rintro ⟨rfl, rfl, rfl⟩
    exact dif_pos ⟨hm, hscale⟩

/-- Zero. -/
def zero : Decimal := ⟨false, 0, 0, by decide, by decide⟩

/-! ## From a float -/

/-- Turns `count` halvings into tenths: an odd mantissa is multiplied by five while there is
room, and otherwise loses its last bit. The second part counts the power of ten. -/
def absorbHalves : Nat → Nat × Int → Nat × Int
  | 0, state => state
  | count + 1, (m, e) =>
    if m % 2 = 0 then absorbHalves count (m / 2, e + 1)
    else if 5 * m < mantissaLimit then absorbHalves count (5 * m, e)
    else absorbHalves count (m / 2, e + 1)

/-- Turns `count` divisions by five into doublings while there is room. -/
def absorbFifths : Nat → Nat × Int → Option (Nat × Int)
  | 0, state => some state
  | count + 1, (m, e) =>
    if m < mantissaLimit / 2 then absorbFifths count (2 * m, e - 1)
    else if (count : Int) + 1 < 2 * e then none
    else absorbFifths count (m / 5, e)

/-- Multiplies by ten, `count` times. -/
def absorbTens : Nat → Nat → Option Nat
  | 0, m => some m
  | count + 1, m => if 10 * m < mantissaLimit then absorbTens count (10 * m) else none

/-- Drops digits until at most 28 places are left; zero needs no place. -/
def limitScale : Nat → Nat → Nat × Nat
  | m, 0 => (m, 0)
  | m, scale + 1 =>
    if scale + 1 ≤ maxScale then (m, scale + 1)
    else if m / 10 = 0 then (0, 0)
    else limitScale (tenthHalfUp m) scale

/-- Drops digits beyond the precision of a double. -/
def limitPrecision : Nat → Nat → Nat × Nat
  | m, 0 => (m, 0)
  | m, scale + 1 =>
    if 2 ^ (52 : Nat) ≤ m then limitPrecision (tenthHalfUp m) scale else (m, scale + 1)

/-- Drops zeros at the end of the fraction. -/
def dropZeros : Nat → Nat → Nat × Nat
  | m, 0 => (m, 0)
  | m, scale + 1 => if m % 10 = 0 then dropZeros (m / 10) scale else (m, scale + 1)

/-- The decimal for `mantissa * 2 ^ exponent`; `none` if that is too large. -/
def ofBinary (negative : Bool) (mantissa : Nat) (exponent : Int) : Option Decimal := do
  let (m, e) ←
    if exponent ≤ 0 then some (absorbHalves (-exponent).toNat (mantissa, exponent))
    else absorbFifths exponent.toNat (mantissa, exponent)
  let m ← absorbTens e.toNat m
  let (m, scale) := limitScale m (-e).toNat
  let (m, scale) := limitPrecision m scale
  let (m, scale) := dropZeros m scale
  ofParts? negative m scale

/-- The decimal for a float; `none` for what is not finite or too large. -/
def ofFloat (x : Float) : Option Decimal :=
  match x.toModel.unpack with
  | .zero _ => some zero
  | .finite sign mantissa exponent _ => ofBinary (sign matches .negative) mantissa exponent
  | _ => none

/-! ## Arithmetic -/

/-- Drops the fewest digits, at least `dropped`, that leave the number in range; `left` is how
many more may go. -/
def fitFrom (negative : Bool) (mantissa scale : Nat) : Nat → Nat → Option Decimal
  | 0, dropped =>
    ofParts? negative (divHalfEven mantissa (10 ^ dropped)) (scale - dropped)
  | left + 1, dropped =>
    match ofParts? negative (divHalfEven mantissa (10 ^ dropped)) (scale - dropped) with
    | some d => some d
    | none => fitFrom negative mantissa scale left (dropped + 1)

/-- The number `mantissa / 10 ^ scale`, rounded to as many places as fit. -/
def fit (negative : Bool) (mantissa scale : Nat) : Option Decimal :=
  fitFrom negative mantissa scale scale 0

/-- The signed mantissa at a scale that is at least the decimal's own. -/
def atScale (d : Decimal) (scale : Nat) : Int :=
  let m : Int := (d.mantissa * 10 ^ (scale - d.scale) : Nat)
  if d.negative then -m else m

/-- Negation. -/
def neg (d : Decimal) : Decimal := { d with negative := !d.negative }

/-- The sum. -/
def add (a b : Decimal) : Option Decimal :=
  let scale := max a.scale b.scale
  let sum := a.atScale scale + b.atScale scale
  fit (sum < 0) sum.natAbs scale

/-- The difference. -/
def sub (a b : Decimal) : Option Decimal :=
  a.add b.neg

/-- The product. -/
def mul (a b : Decimal) : Option Decimal :=
  if a.mantissa = 0 ∨ b.mantissa = 0 then some zero
  else fit (a.negative != b.negative) (a.mantissa * b.mantissa) (a.scale + b.scale)

/-- The quotient to as many of `places` places as fit, without zeros at its end. -/
def divTo (negative : Bool) (n d : Nat) : Nat → Option Decimal
  | 0 => ofParts? negative (divHalfEven n d) 0
  | places + 1 =>
    let q := divHalfEven (n * 10 ^ (places + 1)) d
    if q < mantissaLimit then
      let (m, scale) := dropZeros q (places + 1)
      ofParts? negative m scale
    else divTo negative n d places

/-- The quotient; there is none by zero. -/
def div (a b : Decimal) : Option Decimal :=
  if b.mantissa = 0 then none
  else if a.mantissa = 0 then some zero
  else divTo (a.negative != b.negative) (a.mantissa * 10 ^ b.scale) (b.mantissa * 10 ^ a.scale)
    maxScale

/-! ## Back to integers and floats -/

/-- The value, if it is a whole number. -/
def toInt? (d : Decimal) : Option Int :=
  if d.mantissa % 10 ^ d.scale = 0 then
    let n : Int := (d.mantissa / 10 ^ d.scale : Nat)
    some (if d.negative then -n else n)
  else none

/-- A power of ten, by squaring a double; `bits` bounds the length of the exponent. -/
def tenPower : Nat → Nat → Float → Float → Float
  | 0, _, result, _ => result
  | bits + 1, n, result, square =>
    if n = 0 then result
    else tenPower bits (n / 2) (if n % 2 = 1 then result * square else result) (square * square)

/-- The magnitude as a double: whole part and fraction are converted apart, and their sum is
rounded to the decimal's own places. -/
def magnitude (d : Decimal) : Float :=
  let whole := Float.ofNat (d.mantissa / 10 ^ d.scale)
  let rest := d.mantissa % 10 ^ d.scale
  if rest = 0 then whole
  else
    let power := tenPower 5 d.scale 1.0 10.0
    roundHalfAway ((whole + Float.ofNat rest / Float.ofNat (10 ^ d.scale)) * power) / power

/-- The value as a double. -/
def toFloat (d : Decimal) : Float :=
  if d.negative then -d.magnitude else d.magnitude

end Decimal

/-! ## Decimals as a package -/

/-- What arithmetic asks of decimals: how a float becomes one, four operations, each of which may have no
result, and how a decimal becomes an integer or a float again. -/
structure DecimalPackage where
  ofFloat : Float → Option Decimal
  add : Decimal → Decimal → Option Decimal
  sub : Decimal → Decimal → Option Decimal
  mul : Decimal → Decimal → Option Decimal
  div : Decimal → Decimal → Option Decimal
  toInt? : Decimal → Option Int
  toFloat : Decimal → Float

/-- The package that the functions above make up. -/
def Decimal.package : DecimalPackage where
  ofFloat := ofFloat
  add := add
  sub := sub
  mul := mul
  div := div
  toInt? := toInt?
  toFloat := toFloat

end PathQuery.Number
