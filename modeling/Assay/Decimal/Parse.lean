import Assay.Decimal.Binary64
import Assay.Decimal.Digits

/-!
# Reading decimals exactly

The floating-point number nearest to a decimal: digits with an optional point and an
optional exponent.
-/

namespace Assay.Decimal

/-- The number nearest to `± digits · 10 ^ exponent`.  Exponents far out of range are not
computed with. -/
def nearest (negative : Bool) (digits : List Char) (exponent : Int) : Binary64 :=
  let n := value digits
  let magnitude := exponent + digits.length
  if n = 0 ∨ magnitude < -400 then .withSign negative 0
  else if (400 : Int) + digits.length < magnitude then .withSign negative Binary64.infinityBits
  else .ofRatio negative (n * Nat.pow 10 exponent.toNat) (Nat.pow 10 (-exponent).toNat)

/-- The value of the exponent of a decimal, cut off far out of range. -/
def exponentValue (cs : List Char) : Int :=
  let (negative, ds) := match cs with
    | '-' :: ds => (true, ds)
    | '+' :: ds => (false, ds)
    | ds => (false, ds)
  let ds := ds.dropWhile (· == '0')
  let n : Int := if 9 < ds.length then 1000000000 else value ds
  if negative then -n else n

/-- Whether the text is digits with an optional point and exponent, after an optional
sign. -/
def parse? (cs : List Char) : Option Binary64 :=
  let (negative, cs) := match cs with
    | '-' :: ds => (true, ds)
    | '+' :: ds => (false, ds)
    | ds => (false, ds)
  let whole := cs.takeWhile Char.isDigit
  let rest := cs.dropWhile Char.isDigit
  let (fraction, rest) := match rest with
    | '.' :: ds => (ds.takeWhile Char.isDigit, ds.dropWhile Char.isDigit)
    | ds => ([], ds)
  if whole.isEmpty ∧ fraction.isEmpty then none
  else
    let result (e : Int) := nearest negative (whole ++ fraction) (e - fraction.length)
    match rest with
    | [] => some (result 0)
    | c :: ds =>
      if c ≠ 'e' ∧ c ≠ 'E' then none
      else
        let unsigned := match ds with
          | '-' :: r | '+' :: r => r
          | r => r
        if unsigned.isEmpty ∨ ¬ unsigned.all Char.isDigit then none
        else some (result (exponentValue ds))

end Assay.Decimal
