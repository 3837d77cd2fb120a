import Assay.Decimal.Binary64
import Assay.Decimal.Digits

/-!
# Shortest decimal spelling

The decimal spelling of a finite floating-point number with the fewest digits that still
rounds to it, and of those the nearest.  The reals that round to `m · 2 ^ e` form an
interval, which holds its ends exactly when `m` is even.  The grids of one, two, …
significant digits are tried in turn: if a grid meets the interval, one of the two grid
points beside the number lies in it.
-/

namespace Assay.Decimal

/-- The decimal `0.d₁d₂… · 10 ^ point`; the first and the last digit are not zero. -/
structure Scientific where
  digits : List Char
  point : Int

namespace Shortest

/-- A fraction of natural numbers. -/
structure Ratio where
  num : Nat
  den : Nat

/-- `n · 2 ^ e` as a fraction. -/
def binary (n : Nat) (e : Int) : Ratio := ⟨n * Nat.pow 2 e.toNat, Nat.pow 2 (-e).toNat⟩

/-- `n · 10 ^ e` as a fraction. -/
def decimal (n : Nat) (e : Int) : Ratio := ⟨n * Nat.pow 10 e.toNat, Nat.pow 10 (-e).toNat⟩

def Ratio.lt (a b : Ratio) : Bool := a.num * b.den < b.num * a.den

def Ratio.le (a b : Ratio) : Bool := a.num * b.den ≤ b.num * a.den

/-- The reals that round to a number, by their ends. -/
structure Interval where
  low : Ratio
  high : Ratio
  closed : Bool

def Interval.holds (i : Interval) (r : Ratio) : Bool :=
  if i.closed then i.low.le r && r.le i.high else i.low.lt r && r.lt i.high

/-- The interval around `m · 2 ^ e`.  Below a power of two the spacing halves. -/
def interval (m : Nat) (e : Int) : Interval where
  low := binary (if m = Nat.pow 2 52 ∧ e > -1074 then 4 * m - 1 else 4 * m - 2) (e - 2)
  high := binary (4 * m + 2) (e - 2)
  closed := m % 2 = 0

/-- The least `k` at or above `guess` with `value < 10 ^ k`, looking at three candidates. -/
def pointOf (value : Ratio) (guess : Int) : Int :=
  if value.lt (decimal 1 guess) then guess
  else if value.lt (decimal 1 (guess + 1)) then guess + 1
  else guess + 2

/-- The distance of `a` from `b`, as a numerator over the product of their denominators. -/
def Ratio.gap (a b : Ratio) : Nat :=
  let x := a.num * b.den
  let y := b.num * a.den
  if x ≤ y then y - x else x - y

/-- The point of the grid of spacing `10 ^ unit` beside `value` that lies in the interval:
the nearer one if both do, the even one of two at the same distance. -/
def gridPoint? (i : Interval) (value : Ratio) (unit : Int) : Option Nat :=
  let spacing := decimal 1 unit
  let n := value.num * spacing.den / (value.den * spacing.num)
  let below := decimal n unit
  let above := decimal (n + 1) unit
  match i.holds below, i.holds above with
  | false, false => none
  | true, false => some n
  | false, true => some (n + 1)
  | true, true =>
    let d := below.gap value
    let u := above.gap value
    some (if d < u then n else if u < d then n + 1 else if n % 2 = 0 then n else n + 1)

/-- Drops the zeros at the end of a spelling. -/
def dropZeros (cs : List Char) : List Char := (cs.reverse.dropWhile (· == '0')).reverse

/-- Tries grids of `count`, `count + 1`, … digits, `tries` of them. -/
def search (i : Interval) (value : Ratio) (point : Int) : Nat → Nat → Scientific
  | 0, _ => ⟨['0'], 0⟩
  | tries + 1, count =>
    let unit := point - count
    match gridPoint? i value unit with
    | some n =>
      let cs := digits n
      ⟨dropZeros cs, unit + cs.length⟩
    | none => search i value point tries (count + 1)

end Shortest

open Shortest in
/-- The shortest spelling of the magnitude of a finite number that is not zero. -/
def Binary64.shortest (x : Binary64) : Scientific :=
  let m := x.significand
  let e := x.exponent
  let value := binary m e
  let log : Int := m.log2 + e
  search (interval m e) value (pointOf value ((log * 30103).fdiv 100000)) 17 1

/-- How a floating-point number is laid out: positionally when the decimal point stands
more than `least` and at most `greatest` places after the start of the digits, and with an
exponent otherwise. -/
structure Layout where
  least : Int
  greatest : Int

/-- Sets a decimal in a layout.  A positional spelling has at least one digit on either
side of the point. -/
def Layout.place (layout : Layout) (s : Scientific) : List Char :=
  let n : Int := s.digits.length
  if layout.least < s.point ∧ s.point ≤ layout.greatest then
    if n ≤ s.point then s.digits ++ List.replicate (s.point - n).toNat '0' ++ ['.', '0']
    else if 0 < s.point then
      s.digits.take s.point.toNat ++ '.' :: s.digits.drop s.point.toNat
    else '0' :: '.' :: List.replicate (-s.point).toNat '0' ++ s.digits
  else
    s.digits.take 1 ++ (if s.digits.length = 1 then [] else '.' :: s.digits.drop 1)
      ++ 'e' :: intDigits (s.point - 1)

/-- The spelling of a finite number in a layout. -/
def Layout.spell (layout : Layout) (x : Binary64) : List Char :=
  (if x.negative then ['-'] else [])
    ++ if x.isZero then ['0', '.', '0'] else layout.place x.shortest

end Assay.Decimal
