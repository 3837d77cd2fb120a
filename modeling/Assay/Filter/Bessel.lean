import Assay.Filter.Gamma

/-!
# Bessel functions

The Bessel functions of the orders zero and one, of the first and of the second kind: below two
by quotients of polynomials, and from there on by waves whose height and phase are such
quotients.
-/

namespace Assay.Filter.Bessel

/-- The quotient of two polynomials, of which the second has the constant coefficient one. -/
def quotient (numerator denominator : List Float) (x : Float) : Float :=
  polynomial numerator x / (1 + x * polynomial denominator x)

/-- Quotients from eight, from five, from three and from two on, or close to that. -/
structure Fit where
  fromEight : List Float × List Float
  fromFive : List Float × List Float
  fromThree : List Float × List Float
  fromTwo : List Float × List Float

/-- The value of the quotient for an argument. -/
def Fit.value (f : Fit) (x : Float) : Float :=
  let ix := highWord x
  let (numerator, denominator) :=
    if 0x40200000 ≤ ix then f.fromEight
    else if 0x40122e8b ≤ ix then f.fromFive
    else if 0x4006db6d ≤ ix then f.fromThree
    else f.fromTwo
  quotient numerator denominator (1 / (x * x))

/-- The height of the waves of order zero, without the one that it is close to. -/
def heightZero : Fit :=
  ⟨([0, -7.03124999999900357484e-2, -8.08167041275349795626, -2.57063105679704847262e2,
      -2.48521641009428822144e3, -5.25304380490729545272e3],
     [1.16534364619668181717e2, 3.83374475364121826715e3, 4.05978572648472545552e4,
      1.16752972564375915681e5, 4.76277284146730962675e4]),
   ([-1.14125464691894502584e-11, -7.03124940873599280078e-2, -4.15961064470587782438,
      -6.76747652265167261021e1, -3.31231299649172967747e2, -3.46433388365604912451e2],
     [6.07539382692300335975e1, 1.05125230595704579173e3, 5.97897094333855784498e3,
      9.62544514357774460223e3, 2.40605815922939109441e3]),
   ([-2.54704601771951915620e-9, -7.03119616381481654654e-2, -2.40903221549529611423,
      -2.19659774734883086467e1, -5.80791704701737572236e1, -3.14479470594888503854e1],
     [3.58560338055209726349e1, 3.61513983050303863820e2, 1.19360783792111533330e3,
      1.12799679856907414432e3, 1.73580930813335754692e2]),
   ([-8.87534333032526411254e-8, -7.03030995483624743247e-2, -1.45073846780952986357,
      -7.63569613823527770791, -1.11931668860356747786e1, -3.23364579351335335033],
     [2.22202997532088808441e1, 1.36206794218215208048e2, 2.70470278658083486789e2,
      1.53875394208320329881e2, 1.46576176948256193810e1])⟩

/-- The phase of the waves of order zero. -/
def phaseZero : Fit :=
  ⟨([0, 7.32421874999935051953e-2, 1.17682064682252693899e1, 5.57673380256401856059e2,
      8.85919720756468632317e3, 3.70146267776887834771e4],
     [1.63776026895689824414e2, 8.09834494656449805916e3, 1.42538291419120476348e5,
      8.03309257119514397345e5, 8.40501579819060512818e5, -3.43899293537866615225e5]),
   ([1.84085963594515531381e-11, 7.32421766612684765896e-2, 5.83563508962056953777,
      1.35111577286449829671e2, 1.02724376596164097464e3, 1.98997785864605384631e3],
     [8.27766102236537761883e1, 2.07781416421392987104e3, 1.88472887785718085070e4,
      5.67511122894947329769e4, 3.59767538425114471465e4, -5.35434275601944773371e3]),
   ([4.37741014089738620906e-9, 7.32411180042911447163e-2, 3.34423137516170720929,
      4.26218440745412650017e1, 1.70808091340565596283e2, 1.66733948696651168575e2],
     [4.87588729724587182091e1, 7.09689221056606015736e2, 3.70414822620111362994e3,
      6.46042516752568917582e3, 2.51633368920368957333e3, -1.49247451836156386662e2]),
   ([1.50444444886983272379e-7, 7.32234265963079278272e-2, 1.99819174093815998816,
      1.44956029347885735348e1, 3.16662317504781540833e1, 1.62527075710929267416e1],
     [3.03655848355219184498e1, 2.69348118608049844624e2, 8.44783757595320139444e2,
      8.82935845112488550512e2, 2.12666388511798828631e2, -5.31095493882666946917])⟩

/-- The height of the waves of order one, without the one that it is close to. -/
def heightOne : Fit :=
  ⟨([0, 1.17187499999988647970e-1, 1.32394806593073575129e1, 4.12051854307378562225e2,
      3.87474538913960532227e3, 7.91447954031891731574e3],
     [1.14207370375678408436e2, 3.65093083420853463394e3, 3.69562060269033463555e4,
      9.76027935934950801311e4, 3.08042720627888811578e4]),
   ([1.31990519556243522749e-11, 1.17187493190614097638e-1, 6.80275127868432871736,
      1.08308182990189109773e2, 5.17636139533199752805e2, 5.28715201363337541807e2],
     [5.92805987221131331921e1, 9.91401418733614377743e2, 5.35326695291487976647e3,
      7.84469031749551231769e3, 1.50404688810361062679e3]),
   ([3.02503916137373618024e-9, 1.17186865567253592491e-1, 3.93297750033315640650,
      3.51194035591636932736e1, 9.10550110750781271918e1, 4.85590685197364919645e1],
     [3.47913095001251519989e1, 3.36762458747825746741e2, 1.04687139975775130551e3,
      8.90811346398256432622e2, 1.03787932439639277504e2]),
   ([1.07710830106873743082e-7, 1.17176219462683348094e-1, 2.36851496667608785174,
      1.22426109148261232917e1, 1.76939711271687727390e1, 5.07352312588818499250],
     [2.14364859363821409488e1, 1.25290227168402751090e2, 2.32276469057162813669e2,
      1.17679373287147100768e2, 8.36463893371618283368])⟩

/-- The phase of the waves of order one. -/
def phaseOne : Fit :=
  ⟨([0, -1.02539062499992714161e-1, -1.62717534544589987888e1, -7.59601722513950107896e2,
      -1.18498066702429587167e4, -4.84385124285750353010e4],
     [1.61395369700722909556e2, 7.82538599923348465381e3, 1.33875336287249578163e5,
      7.19657723683240939863e5, 6.66601232617776375264e5, -2.94490264303834643215e5]),
   ([-2.08979931141764104297e-11, -1.02539050241375426231e-1, -8.05644828123936029840,
      -1.83669607474888380239e2, -1.37319376065508163265e3, -2.61244440453215656817e3],
     [8.12765501384335777857e1, 1.99179873460485964642e3, 1.74684851924908907677e4,
      4.98514270910352279316e4, 2.79480751638918118260e4, -4.71918354795128470869e3]),
   ([-5.07831226461766561369e-9, -1.02537829820837089745e-1, -4.61011581139473403113,
      -5.78472216562783643212e1, -2.28244540737631695038e2, -2.19210128478909325622e2],
     [4.76651550323729509273e1, 6.73865112676699709482e2, 3.38015286679526343505e3,
      5.54772909720722782367e3, 1.90311919338810798763e3, -1.35201191444307340817e2]),
   ([-1.78381727510958865572e-7, -1.02517042607985553460e-1, -2.75220568278187460720,
      -1.96636162643703720221e1, -4.23253133372830490089e1, -2.13719211703704061733e1],
     [2.95333629060523854548e1, 2.52981549982190529136e2, 7.57502834868645436472e2,
      7.39393205320467245656e2, 1.55949003336666123687e2, -4.95949898822628210127])⟩

/-- Two divided by `pi`, and one divided by its root. -/
def twoByPi : Float := 6.36619772367581382433e-1

def oneByRootPi : Float := 5.64189583547756279280e-1

/-! ## Order zero -/

/-- The waves of order zero, of the first or of the second kind. -/
def waveZero (second : Bool) (x : Float) : Float :=
  let ix := highWord x
  let s := x.sin
  let c := if second then -x.cos else x.cos
  let sum := s + c
  let height :=
    if ix < 0x7fe00000 then
      let z := -(2 * x).cos
      -- The smaller one of the sum and the difference is found from the other.
      let (sum, difference) := if s * c < 0 then (z / (s - c), s - c) else (sum, z / sum)
      if ix < 0x48000000 then
        let difference := if second then -difference else difference
        (1 + heightZero.value x) * sum - ((-0.125 + phaseZero.value x) / x) * difference
      else sum
    else sum
  oneByRootPi * height / x.sqrt

/-- The function of the first kind of order zero. -/
def firstZero (x : Float) : Float :=
  let x := x.abs
  let ix := highWord x
  if 0x7ff00000 ≤ ix then 1 / (x * x)
  else if 0x40000000 ≤ ix then waveZero false x
  else if 0x3f200000 ≤ ix then
    let z := x * x
    let r := z * polynomial
      [1.56249999999999947958e-2, -1.89979294238854721751e-4, 1.82954049532700665670e-6,
       -4.61832688532103189199e-9] z
    let s := 1 + z * polynomial
      [1.56191029464890010492e-2, 1.16926784663337450260e-4, 5.13546550207318111446e-7,
       1.16614003333790000205e-9] z
    (1 + x / 2) * (1 - x / 2) + z * (r / s)
  else if 0x38000000 ≤ ix then 1 - 0.25 * x * x
  else 1 - x

/-- The function of the second kind of order zero. -/
def secondZero (x : Float) : Float :=
  let ix := highWord x
  let constant := -7.38042951086872317523e-2
  if x.isNaN then x
  else if x == 0 then -1 / 0
  else if x < 0 then 0 / 0
  else if x.isInf then 1 / x
  else if 0x40000000 ≤ ix then waveZero true x
  else if 0x3e400000 ≤ ix then
    quotient
      [constant, 1.76666452509181115538e-1, -1.38185671945596898896e-2,
       3.47453432093683650238e-4, -3.81407053724364161125e-6, 1.95590137035022920206e-8,
       -3.98205194132103398453e-11]
      [1.27304834834123699328e-2, 7.60068627350353253702e-5, 2.59150851840457805467e-7,
       4.41110311332675467403e-10]
      (x * x)
      + twoByPi * (firstZero x * x.log)
  else constant + twoByPi * x.log

/-! ## Order one -/

/-- The waves of order one, of the first or of the second kind. -/
def waveOne (second : Bool) (x : Float) : Float :=
  let ix := highWord x
  let s := if second then -x.sin else x.sin
  let c := x.cos
  let difference := s - c
  let height :=
    if ix < 0x7fe00000 then
      let z := (2 * x).cos
      let (difference, sum) :=
        if 0 < s * c then (z / (-s - c), -s - c) else (difference, z / difference)
      if ix < 0x48000000 then
        let sum := if second then -sum else sum
        (1 + heightOne.value x) * difference - ((0.375 + phaseOne.value x) / x) * sum
      else difference
    else difference
  oneByRootPi * height / x.sqrt

/-- The function of the first kind of order one. -/
def firstOne (x : Float) : Float :=
  let ix := highWord x
  if 0x7ff00000 ≤ ix then 1 / (x * x)
  else if 0x40000000 ≤ ix then
    if x < 0 then -waveOne false x.abs else waveOne false x
  else
    let z := x * x
    let r :=
      if 0x38000000 ≤ ix then
        z * polynomial
          [-6.25000000000000000000e-2, 1.40705666955189706048e-3, -1.59955631084035597520e-5,
           4.96727999609584448412e-8] z
          / (1 + z * polynomial
            [1.91537599538363460805e-2, 1.85946785588630915560e-4, 1.17718464042623683263e-6,
             5.04636257076217042715e-9, 1.23542274426137913908e-11] z)
      else x
    (0.5 + r) * x

/-- The function of the second kind of order one. -/
def secondOne (x : Float) : Float :=
  let ix := highWord x
  if x.isNaN then x
  else if x == 0 then -1 / 0
  else if x < 0 then 0 / 0
  else if x.isInf then 1 / x
  else if 0x40000000 ≤ ix then waveOne true x
  else if ix < 0x3c900000 then -twoByPi / x
  else
    x * quotient
      [-1.96057090646238940668e-1, 5.04438716639811282616e-2, -1.91256895875763547298e-3,
       2.35252600561610495928e-5, -9.19099158039878874504e-8]
      [1.99167318236649903973e-2, 2.02552581025135171496e-4, 1.35608801097516229404e-6,
       6.22741452364621501295e-9, 1.66559246207992079114e-11]
      (x * x)
      + twoByPi * (firstOne x * x.log - 1 / x)

end Assay.Filter.Bessel
