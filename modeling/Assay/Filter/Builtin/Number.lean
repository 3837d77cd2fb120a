import Assay.Filter.Arithmetic
import Assay.Filter.Bessel
import Assay.Filter.Builtin.Basic

/-!
# Built-in filters on numbers

Rounding to integers, and the elementary and some special functions on floating-point numbers.
-/

namespace Assay.Filter.Builtin

open Value

/-- Rounds a number to an integer.  An integer out of range is kept as text. -/
def rounded (f : Float → Float) (v : Value) : Except Error Value :=
  match v with
  | int i => .ok (int i)
  | v => do
    let y := f (← v.asFloat)
    match (toBinary y).toInt? with
    | none => return float y
    | some i =>
      if Word.least ≤ i ∧ i ≤ Word.greatest + 1 then return int (min i Word.greatest)
      else return decimal (.ofList (Decimal.intDigits i))

/-- The number without the digits after its point. -/
def truncated (x : Float) : Float := if x < 0 then x.ceil else x.floor

/-- The nearest integer, a tie going to the even one. -/
def nearestEven (x : Float) : Float :=
  if (x - truncated x).abs == 0.5 then 2 * (x / 2).round else x.round

/-- The number with the sign of another. -/
def withSignOf (x y : Float) : Float := if (toBinary y).negative then -x.abs else x.abs

/-- The number between one and two by which a power of two makes up a number. -/
def significandOf (x : Float) : Float :=
  if x == 0 ∨ x.isNaN ∨ x.isInf then x else 2 * x.frExp.1

/-- The exponent of the power of two. -/
def exponentOf (x : Float) : Float :=
  if x.isNaN then x
  else if x.isInf then x.abs
  else if x == 0 then -(1.0 / 0.0)
  else floatOfInt (x.frExp.2 - 1)

/-- The exponent of the power of two as an integer of 32 bits, which stands in for one that is not
finite. -/
def integralExponentOf (x : Float) : Int :=
  if x.isNaN ∨ x == 0 then -2147483648
  else if x.isInf then 2147483647
  else x.frExp.2 - 1

/-- The remainder of a division with the quotient rounded to the nearest integer. -/
def nearestRem (x y : Float) : Float :=
  let r := floatRem x y
  let twice := 2 * r.abs
  let odd := (floatRem (truncated (x / y)) 2).abs == 1
  if twice > y.abs ∨ (twice == y.abs ∧ odd) then r - withSignOf y.abs r else r

/-- The next floating-point number in the direction of another. -/
def nextTowards (x y : Float) : Float :=
  let a := x.toBits
  let b := y.toBits
  let sign : UInt64 := 0x8000000000000000
  if x.isNaN ∨ y.isNaN then x + y
  else if x == 0 ∧ y == 0 then y
  else if a = b then y
  else if x == 0 then .ofBits (b &&& sign ||| 1)
  else if y.abs < x.abs ∨ (a ^^^ b) &&& sign ≠ 0 then .ofBits (a - 1)
  else .ofBits (a + 1)

/-- A product and a sum of finite numbers that are rounded only once. -/
def fusedMulAdd (x y z : Float) : Float :=
  let a := toBinary x
  let b := toBinary y
  let c := toBinary z
  let e := min (a.exponent + b.exponent) c.exponent
  let signed (negative : Bool) (n : Nat) : Int := if negative then -n else n
  let product := signed (a.negative != b.negative)
    (a.significand * b.significand * Nat.pow 2 (a.exponent + b.exponent - e).toNat)
  let sum := product + signed c.negative (c.significand * Nat.pow 2 (c.exponent - e).toNat)
  if ¬ a.isFinite ∨ ¬ b.isFinite ∨ ¬ c.isFinite ∨ sum = 0 then x * y + z
  else
    let r := Decimal.Binary64.scaledRatio sum.natAbs 1 e
    ofBinary (.ofRatio (sum < 0) r.1 r.2)

/-- The functions of one floating-point number. -/
def unaryFunctions : List (String × (Float → Float)) :=
  [("acos", Float.acos), ("acosh", Float.acosh), ("asin", Float.asin),
   ("asinh", Float.asinh), ("atan", Float.atan), ("atanh", Float.atanh),
   ("cbrt", Float.cbrt), ("cos", Float.cos), ("cosh", Float.cosh), ("exp", Float.exp),
   ("exp10", fun x => Float.pow 10 x), ("exp2", Float.exp2), ("expm1", fun x => x.exp - 1),
   ("fabs", Float.abs), ("gamma", Gamma.log), ("j0", Bessel.firstZero),
   ("j1", Bessel.firstOne), ("lgamma", Gamma.log), ("log", Float.log), ("log10", Float.log10),
   ("log1p", fun x => (1 + x).log), ("log2", Float.log2), ("logb", exponentOf),
   ("nearbyint", Float.round), ("pow10", fun x => Float.pow 10 x), ("rint", nearestEven),
   ("significand", significandOf), ("sin", Float.sin), ("sinh", Float.sinh),
   ("sqrt", Float.sqrt), ("tan", Float.tan), ("tanh", Float.tanh), ("tgamma", Gamma.gamma),
   ("trunc", truncated), ("y0", Bessel.secondZero), ("y1", Bessel.secondOne)]

/-- The functions of two floating-point numbers. -/
def binaryFunctions : List (String × (Float → Float → Float)) :=
  [("atan2", Float.atan2), ("copysign", withSignOf), ("drem", nearestRem),
   ("fdim", fun x y => if x.isNaN ∨ y.isNaN then x + y else if x > y then x - y else 0),
   ("fmax", fun x y => if x.isNaN then y else if y.isNaN then x else if x < y then y else x),
   ("fmin", fun x y => if x.isNaN then y else if y.isNaN then x else if y < x then y else x),
   ("fmod", floatRem), ("nextafter", nextTowards), ("nexttoward", nextTowards),
   ("pow", Float.pow)]

/-- The functions of a floating-point number and an exponent of two. -/
def scalings : List String := ["ldexp", "scalb", "scalbln"]

/-- The built-in filters on numbers. -/
def onNumbers : List Builtin :=
  [plain "floor" (rounded Float.floor), plain "round" (rounded Float.round),
   plain "ceil" (rounded Float.ceil),
   plain "frexp" fun v => do
    let x ← v.asFloat
    let (m, e) := if x.isNaN ∨ x.isInf ∨ x == 0 then (x, 0) else x.frExp
    return array [float m, int e],
   plain "ilogb" fun v => return int (integralExponentOf (← v.asFloat)),
   plain "modf" fun v => do
    let x ← v.asFloat
    let whole := if x.isInf then x else truncated x
    return array [float (withSignOf (if x.isInf then 0 else x - whole) x), float whole],
   plain "lgamma_r" fun v => do
    let (y, sign) := Gamma.logWithSign (← v.asFloat)
    return array [float y, int sign],
   withThree "fma" fun _ a b c => do
    return float (fusedMulAdd (← a.asFloat) (← b.asFloat) (← c.asFloat))]
  ++ unaryFunctions.map (fun f => plain f.1 fun v => do return float (f.2 (← v.asFloat)))
  ++ binaryFunctions.map (fun f => withTwo f.1 fun _ a b => do
    let x ← a.asFloat
    let y ← b.asFloat
    return float (f.2 x y))
  ++ scalings.map (fun name => withTwo name fun _ a b => do
    let x ← a.asFloat
    let e ← b.asInteger
    return float (x.scaleB e))

end Assay.Filter.Builtin
