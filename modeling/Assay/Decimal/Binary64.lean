/-!
# Binary64

Floating-point numbers with a 53-bit significand, kept as their 64 bits.  A finite one
stands for `significand · 2 ^ exponent`, negated if its sign bit is set.  `ofRatio`
rounds a quotient of natural numbers to the nearest such number, a tie going to the even
significand; products and quotients are rounded from their exact values.
-/

namespace Assay.Decimal

/-- A floating-point number in the 64-bit binary interchange format. -/
structure Binary64 where
  bits : UInt64
deriving DecidableEq

namespace Binary64

/-- Whether the sign bit is set. -/
def negative (x : Binary64) : Bool := x.bits.toNat / Nat.pow 2 63 == 1

/-- The biased exponent. -/
def field (x : Binary64) : Nat := x.bits.toNat / Nat.pow 2 52 % Nat.pow 2 11

/-- The trailing bits of the significand. -/
def fraction (x : Binary64) : Nat := x.bits.toNat % Nat.pow 2 52

def isFinite (x : Binary64) : Bool := x.field != 2047

/-- The integer `m` of the value `m · 2 ^ e`. -/
def significand (x : Binary64) : Nat :=
  if x.field = 0 then x.fraction else Nat.pow 2 52 + x.fraction

/-- The exponent `e` of the value `m · 2 ^ e`. -/
def exponent (x : Binary64) : Int :=
  if x.field = 0 then -1074 else (x.field : Int) - 1075

def isZero (x : Binary64) : Bool := x.isFinite && x.significand == 0

/-- Sets the sign bit as told and keeps the rest. -/
def withSign (negative : Bool) (magnitude : Nat) : Binary64 :=
  ⟨UInt64.ofNat ((if negative then Nat.pow 2 63 else 0) + magnitude)⟩

/-- The bits of infinity, without the sign. -/
def infinityBits : Nat := 2047 * Nat.pow 2 52

/-- The number of the other sign. -/
def neg (x : Binary64) : Binary64 := withSign (!x.negative) (x.bits.toNat % Nat.pow 2 63)

/-- `⌊log₂ (num / den)⌋` for positive `num` and `den`. -/
def ratioLog (num den : Nat) : Int :=
  let guess : Int := (num.log2 : Int) - den.log2
  if den * Nat.pow 2 guess.toNat ≤ num * Nat.pow 2 (-guess).toNat then guess else guess - 1

/-- The nearest integer to `num / den`, a tie going to the even one. -/
def roundRatio (num den : Nat) : Nat :=
  let q := num / den
  let r := num % den
  if 2 * r > den ∨ (2 * r = den ∧ q % 2 = 1) then q + 1 else q

/-- The bits, without the sign, of the number nearest to `num / den`. -/
def magnitudeOfRatio (num den : Nat) : Nat :=
  if num = 0 then 0 else
  let e := max (ratioLog num den - 52) (-1074)
  let q := roundRatio (num * Nat.pow 2 (-e).toNat) (den * Nat.pow 2 e.toNat)
  -- A significand that rounds up to `2 ^ 53` carries into the exponent by itself.
  min (q + (e + 1074).toNat * Nat.pow 2 52) infinityBits

/-- The number nearest to `± num / den`. -/
def ofRatio (negative : Bool) (num den : Nat) : Binary64 :=
  withSign negative (magnitudeOfRatio num den)

/-- The number nearest to `n`. -/
def ofNat (n : Nat) : Binary64 := ofRatio false n 1

/-- The number nearest to `i`. -/
def ofInt (i : Int) : Binary64 := ofRatio (i < 0) i.natAbs 1

/-- `num · 2 ^ e / den` as a quotient of natural numbers. -/
def scaledRatio (num den : Nat) (e : Int) : Nat × Nat :=
  (num * Nat.pow 2 e.toNat, den * Nat.pow 2 (-e).toNat)

/-- The product of two finite numbers. -/
def mul (x y : Binary64) : Binary64 :=
  let r := scaledRatio (x.significand * y.significand) 1 (x.exponent + y.exponent)
  ofRatio (x.negative != y.negative) r.1 r.2

/-- The quotient of two finite numbers, the second not zero. -/
def div (x y : Binary64) : Binary64 :=
  let r := scaledRatio x.significand y.significand (x.exponent - y.exponent)
  ofRatio (x.negative != y.negative) r.1 r.2

/-- The remainder of the division of two finite numbers, the second not zero, with the
quotient rounded towards zero.  It is exact and has the sign of the first number. -/
def rem (x y : Binary64) : Binary64 :=
  let e := min x.exponent y.exponent
  let m := x.significand * Nat.pow 2 (x.exponent - e).toNat
  let n := y.significand * Nat.pow 2 (y.exponent - e).toNat
  let r := scaledRatio (m % n) 1 e
  ofRatio x.negative r.1 r.2

/-- The integer that a finite number is, if it has no fractional part. -/
def toInt? (x : Binary64) : Option Int :=
  if x.isFinite then
    let shift := Nat.pow 2 (-x.exponent).toNat
    if x.significand % shift = 0 then
      let n : Int := (x.significand / shift * Nat.pow 2 x.exponent.toNat : Nat)
      some (if x.negative then -n else n)
    else none
  else none

end Binary64

end Assay.Decimal
