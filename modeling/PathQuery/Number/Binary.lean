import PathQuery.Number.Integer

/-!
# Binary floating point, exactly

A finite `Float` is an integer mantissa times a power of two. The functions here read that
pair and compute with integers, so that rounding and truncation hide nothing.
-/

namespace PathQuery.Number

/-- The double nearest to a 64-bit integer. -/
def toFloat (n : Int64) : Float :=
  Float.ofInt n.toInt

/-- The double nearest to `mantissa * 10 ^ exponent`. -/
def scientific (mantissa : Nat) (exponent : Int) : Float :=
  if 0 ≤ exponent then Float.ofScientific mantissa false exponent.toNat
  else Float.ofScientific mantissa true (-exponent).toNat

/-- The whole part of `mantissa * 2 ^ exponent`. -/
def wholePart (mantissa : Nat) (exponent : Int) : Nat :=
  if 0 ≤ exponent then mantissa * 2 ^ exponent.toNat else mantissa / 2 ^ (-exponent).toNat

/-- Whether `mantissa * 2 ^ exponent` is a whole number. -/
def isWholeAt (mantissa : Nat) (exponent : Int) : Bool :=
  0 ≤ exponent || mantissa % 2 ^ (-exponent).toNat == 0

/-- Whether a float is a finite whole number. -/
def isWhole (x : Float) : Bool :=
  match x.toModel.unpack with
  | .zero _ => true
  | .finite _ mantissa exponent _ => isWholeAt mantissa exponent
  | _ => false

/-- The integer part of a finite float; zero for the others. -/
def truncate (x : Float) : Int :=
  match x.toModel.unpack with
  | .finite .positive mantissa exponent _ => wholePart mantissa exponent
  | .finite .negative mantissa exponent _ => -(wholePart mantissa exponent : Int)
  | _ => 0

/-- The integer part of a finite float, brought to the nearer end of the 64-bit range when it
lies outside. -/
def truncate64 (x : Float) : Int64 :=
  Int64.ofIntClamp (truncate x)

/-- Whether the sign bit is set; that of zero and of an infinity counts too. -/
def isSignNegative (x : Float) : Bool :=
  match x.toModel.unpack with
  | .zero .negative | .infinity .negative | .finite .negative _ _ _ => true
  | _ => false

/-- The nearest whole number, a half going away from zero. -/
def roundHalfAway (x : Float) : Float :=
  match x.toModel.unpack with
  | .finite sign mantissa exponent _ =>
    if 0 ≤ exponent then x
    else
      let unit := 2 ^ (-exponent).toNat
      let rounded := Float.ofNat ((2 * mantissa + unit) / (2 * unit))
      match sign with
      | .positive => rounded
      | .negative => -rounded
  | _ => x

end PathQuery.Number
