/-!
# The gamma function

The gamma function and the logarithm of its absolute value, by approximations on intervals: a
polynomial or a quotient of two, and for great arguments a series.  Negative arguments are
reflected.
-/

namespace Assay.Filter

/-- The value of a polynomial, of which the constant coefficient comes first. -/
def polynomial (coefficients : List Float) (x : Float) : Float :=
  coefficients.foldr (fun c y => y * x + c) 0

/-- The exponent and the first digits of a floating-point number without its sign, by which
intervals are told apart. -/
def highWord (x : Float) : Nat := x.toBits.toNat / 4294967296 % 2147483648

def pi : Float := 3.14159265358979311600

namespace Gamma

/-- The sine of a multiple of `pi`, which need not be negative. -/
def sinPi (x : Float) : Float :=
  let x := 2 * (x * 0.5 - (x * 0.5).floor)
  -- The quarter of the circle, counted from that around zero.
  let n := ((4 * x).toUInt64.toNat + 1) / 2
  let y := (x - Float.ofNat n * 0.5) * pi
  match n with
  | 1 => y.cos
  | 2 => (-y).sin
  | 3 => -y.cos
  | _ => y.sin

/-! ## The logarithm -/

/-- The coefficients in front of even powers, around two. -/
def nearTwoEven : List Float :=
  [7.72156649015328655494e-2, 6.73523010531292681824e-2, 7.38555086081402883957e-3,
   1.19270763183362067845e-3, 2.20862790713908385557e-4, 2.52144565451257326939e-5]

/-- The coefficients in front of odd powers, around two. -/
def nearTwoOdd : List Float :=
  [3.22467033424113591611e-1, 2.05808084325167332806e-2, 2.89051383673415629091e-3,
   5.10069792153511336608e-4, 1.08011567247583939954e-4, 4.48640949618915160150e-5]

/-- The argument at which the logarithm is least. -/
def lowest : Float := 1.46163214496836224576

/-- The least value of the logarithm, and what it lacks. -/
def least : Float := -1.21486290535849611461e-1

def leastTail : Float := -3.63867699703950536541e-18

/-- The coefficients around the lowest place, in front of powers of the cube. -/
def nearLowestFirst : List Float :=
  [4.83836122723810047042e-1, -3.27885410759859649565e-2, 6.10053870246291332635e-3,
   -1.40346469989232843813e-3, 3.15632070903625950361e-4]

/-- The coefficients in front of these powers times the argument. -/
def nearLowestSecond : List Float :=
  [-1.47587722994593911752e-1, 1.79706750811820387126e-2, -3.68452016781138256760e-3,
   8.81081882437654011382e-4, -3.12754168375120860518e-4]

/-- The coefficients in front of these powers times the square of the argument. -/
def nearLowestThird : List Float :=
  [6.46249402391333854778e-2, -1.03142241298341437450e-2, 2.25964780900612472250e-3,
   -5.38595305356740546715e-4, 3.35529192635519073543e-4]

/-- The coefficients of the quotient around one. -/
def nearOneOver : List Float :=
  [-7.72156649015328655494e-2, 6.32827064025093366517e-1, 1.45492250137234768737,
   9.77717527963372745603e-1, 2.28963728064692451092e-1, 1.33810918536787660377e-2]

def nearOneUnder : List Float :=
  [1, 2.45597793713041134822, 2.12848976379893395361, 7.69285150456672783825e-1,
   1.04222645593369134254e-1, 3.21709242282423911810e-3]

/-- The coefficients of the quotient between two and three. -/
def middleOver : List Float :=
  [-7.72156649015328655494e-2, 2.14982415960608852501e-1, 3.25778796408930981787e-1,
   1.46350472652464452805e-1, 2.66422703033638609560e-2, 1.84028451407337715652e-3,
   3.19475326584100867617e-5]

def middleUnder : List Float :=
  [1, 1.39200533467621045958, 7.21935547567138069525e-1, 1.71933865632803078993e-1,
   1.86459191715652901344e-2, 7.77942496381893596434e-4, 7.32668430744625636189e-6]

/-- The coefficients of the series for great arguments. -/
def series : List Float :=
  [4.18938533204672725052e-1, 8.33333333333329678849e-2, -2.77777777728775536470e-3,
   7.93650558643019558500e-4, -5.95187557450339963135e-4, 8.36339918996282139126e-4,
   -1.63092934096575273989e-3]

/-- The logarithm at a distance below two, above the lowest place, or above one. -/
def logNear (place : Nat) (y : Float) : Float :=
  let z := y * y
  match place with
  | 0 => y * polynomial nearTwoEven z + z * polynomial nearTwoOdd z - 0.5 * y
  | 1 =>
    let w := z * y
    least + (z * polynomial nearLowestFirst w
      - (leastTail - w * (polynomial nearLowestSecond w + y * polynomial nearLowestThird w)))
  | _ => -0.5 * y + y * polynomial nearOneOver y / polynomial nearOneUnder y

/-- The logarithm below two.  Below nine tenths it is that of the argument one step up. -/
def logBelowTwo (x : Float) : Float :=
  let ix := highWord x
  if ix ≤ 0x3feccccc then
    -x.log +
      if 0x3fe76944 ≤ ix then logNear 0 (1 - x)
      else if 0x3fcda661 ≤ ix then logNear 1 (x - (lowest - 1))
      else logNear 2 x
  else if 0x3ffbb4c3 ≤ ix then logNear 0 (2 - x)
  else if 0x3ff3b4c4 ≤ ix then logNear 1 (x - lowest)
  else logNear 2 (x - 1)

/-- The logarithm from two to below eight: that of the argument cut down to below three, and that
of the factors that were cut off. -/
def logBelowEight (x : Float) : Float :=
  let n := x.floor.toUInt64.toNat
  let y := x - Float.ofNat n
  let rest := 0.5 * y + y * polynomial middleOver y / polynomial middleUnder y
  let factors := [6.0, 5, 4, 3, 2].drop (7 - n) |>.foldl (fun z k => z * (y + k)) 1
  if 3 ≤ n then rest + factors.log else rest

/-- The logarithm of a positive argument. -/
def logPositive (x : Float) : Float :=
  let ix := highWord x
  if x == 1 ∨ x == 2 then 0
  else if ix < 0x40000000 then logBelowTwo x
  else if ix < 0x40200000 then logBelowEight x
  else if ix < 0x43900000 then
    let z := 1 / x
    (x - 0.5) * (x.log - 1) + (series.headD 0 + z * polynomial series.tail (z * z))
  else x * (x.log - 1)

/-- The logarithm of the absolute value of the gamma function, and the sign of the function. -/
def logWithSign (x : Float) : Float × Int :=
  let negative := 0x8000000000000000 ≤ x.toBits
  if x.isNaN ∨ x.isInf then (x * x, 1)
  else if highWord x < 0x3b900000 then (-x.abs.log, if negative then -1 else 1)
  else if negative then
    let s := sinPi x.abs
    if s == 0 then (1 / 0, 1)
    else ((pi / (s.abs * x.abs)).log - logPositive x.abs, if 0 < s then -1 else 1)
  else (logPositive x, 1)

/-- The logarithm of the absolute value of the gamma function. -/
def log (x : Float) : Float := (logWithSign x).1

/-! ## The function -/

/-- The coefficients of the quotient. -/
def numerator : List Float :=
  [23531376880.410759688572007674451636754734846804940,
   42919803642.649098768957899047001988850926355848959,
   35711959237.355668049440185451547166705960488635843,
   17921034426.037209699919755754458931112671403265390,
   6039542586.3520280050642916443072979210699388420708,
   1439720407.3117216736632230727949123939715485786372,
   248874557.86205415651146038641322942321632125127801,
   31426415.585400194380614231628318205362874684987640,
   2876370.6289353724412254090516208496135991145378768,
   186056.26539522349504029498971604569928220784236328,
   8071.6720023658162106380029022722506138218516325024,
   210.82427775157934587250973392071336271166969580291,
   2.5066282746310002701649081771338373386264310793408]

def denominator : List Float :=
  [0, 39916800, 120543840, 150917976, 105258076, 45995730, 13339535, 2637558, 357423, 32670, 1925,
   66, 1]

/-- The quotient, for great arguments from the other end. -/
def quotient (x : Float) : Float :=
  if x < 8 then polynomial numerator x / polynomial denominator x
  else
    let fromEnd (cs : List Float) : Float := cs.foldl (fun y c => y / x + c) 0
    fromEnd numerator / fromEnd denominator

/-- By how much the argument is shifted. -/
def shift : Float := 5.524680040776729583740234375

/-- The gamma function where it is neither an integer nor out of range. -/
def approximate (x : Float) : Float :=
  let a := x.abs
  let y := a + shift
  -- What was lost in the sum.
  let lost := if shift < a then y - a - shift else y - shift - a
  let z := a - 0.5
  let r := quotient a * (-y).exp
  let (r, lost, z) :=
    if x < 0 then (-pi / (sinPi a * a * r), -lost, -z) else (r, lost, z)
  let r := r + lost * (shift + 0.5) * r / y
  let power := y.pow (0.5 * z)
  r * power * power

/-- The gamma function. -/
def gamma (x : Float) : Float :=
  let negative := 0x8000000000000000 ≤ x.toBits
  if x.isNaN ∨ x.isInf then x + 1 / 0
  else if highWord x < 0x3c900000 then 1 / x
  else if x == x.floor ∧ negative then 0 / 0
  else if x == x.floor ∧ x ≤ 23 then
    Float.ofNat ((List.range (x.toUInt64.toNat - 1)).foldl (fun n i => n * (i + 1)) 1)
  else if 0x40670000 ≤ highWord x then
    if negative then (if x.floor * 0.5 == (x * 0.5).floor then 0 else -0.0) else 1 / 0
  else approximate x

end Gamma

end Assay.Filter
