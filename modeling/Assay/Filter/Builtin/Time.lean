import Assay.Calendar.Reading
import Assay.Filter.Builtin.Basic

/-!
# Built-in filters on moments

Moments as seconds from the start of 1970, as arrays of their parts and as texts, in the time
of the prime meridian and in the local time.
-/

namespace Assay.Filter.Builtin

open Value
open Calendar (Moment Date)

/-- The integer part of a number of microseconds, cut off to 64 bits. -/
def wholeMicros (x : Float) : Int :=
  if x.isNaN then 0
  else match (toBinary (if x < 0 then x.ceil else x.floor)).toInt? with
    | some i => max Word.least (min Word.greatest i)
    | none => if x < 0 then Word.least else Word.greatest

/-- The moment of a number of seconds. -/
def momentOfSeconds (v : Value) : Except Error Moment := do
  let micros ← match v with
    | int i => pure (Word.wrapped (i * 1000000))
    | v => pure (wholeMicros ((← v.asFloat) * 1000000))
  match Moment.ofMicros? micros with
  | some t => return t
  | none => throw (.ofText ("cannot parse " ++ v.text ++ " as epoch timestamp"))

/-- A number as a natural number below `2 ^ 32`. -/
def small? : Value → Option Nat
  | int i => if 0 ≤ i ∧ i < 4294967296 then some i.toNat else none
  | _ => none

/-- The moment of an array of its parts: year, month from zero, day, hour, minute, second. -/
def momentOfParts? : List Value → Option Moment
  | int year :: month :: day :: hour :: minute :: second :: _ => do
    let x ← match second.asFloat with
      | .ok x => some x
      | .error _ => none
    let whole ← (toBinary x.floor).toInt?
    if whole < 0 then none
    else
      let fraction ← (toBinary ((x - x.floor) * 1000000000).floor).toInt?
      let date : Date := ⟨year, (← small? month) + 1, ← small? day⟩
      Moment.ofParts? date (← small? hour) (← small? minute) whole.toNat fraction.toNat
  | _ => none

/-- The fault of a value that is no moment. -/
def notMoment (v : Value) : Error := .ofText ("cannot convert " ++ v.text ++ " to time")

/-- The moment of an array of its parts. -/
def momentOfArray (v : Value) (items : List Value) : Except Error Moment :=
  match momentOfParts? items with
  | some t => .ok t
  | none => .error (notMoment v)

/-- The moment of a number of seconds or an array of parts. -/
def momentOf (v : Value) : Except Error Moment :=
  match v with
  | array items => momentOfArray v items
  | v => momentOfSeconds v

/-- The seconds of a moment, with a fraction if one is asked for. -/
def secondsValue (fraction : Bool) (t : Moment) : Value :=
  if fraction then float (floatOfInt t.micros / 1000000) else int t.seconds

/-- The parts of a moment. -/
def partsValue (t : Moment) : Value :=
  let second : Int := t.secondOfMinute
  array [int t.date.year, int (t.date.month - 1 : Nat), int t.date.day, int t.hour,
    int t.minute,
    if t.nano = 0 then int second
    else float (floatOfInt second + floatOfInt (t.nano / 1000 : Nat) / 1000000),
    int t.date.sinceSunday, int t.date.ordinal]

/-- A moment as the internet standard writes it. -/
def standardText (v : Value) : Except Error Value := do
  let t ← momentOfSeconds v
  let format := match v with
    | int _ => "%Y-%m-%dT%H:%M:%SZ"
    | _ => "%Y-%m-%dT%H:%M:%S%.6fZ"
  return string ((t.format? 0 format).getD "")

/-- A moment in a format, in a time that is ahead of that at the prime meridian.  The program
breaks off if a directive of the format is not known. -/
def formatted (ahead : Int → Int) (v format : Value) : Except (Obstacle Error) Value := do
  let format ← format.asString.mapError .fault
  let t ← (momentOf v).mapError .fault
  let n := ahead t.seconds
  match (t.later n).format? n format with
  | some s => return string s
  | none => throw (.ended .crash)

/-- The built-in filters on moments. -/
def onMoments : List Builtin :=
  [plain "fromdateiso8601" fun v => do
    let s ← v.asString
    match Moment.readStandard s with
    | .ok t => return secondsValue (s.toList.contains '.') t
    | .error fault =>
      throw (.ofText ("cannot parse " ++ s ++ " as ISO-8601 timestamp: " ++ fault.message)),
   plain "todateiso8601" standardText,
   plain "gmtime" fun v => do return partsValue (← momentOfSeconds v),
   plainIn "localtime" fun around v => do
    let t ← (momentOfSeconds v).mapError .fault
    return partsValue (t.later (around.ahead t.seconds)),
   plain "mktime" fun v => do
    let t ← momentOfArray v (← v.asArray)
    return secondsValue (0 < t.nano / 1000) t,
   withOneIn "strftime" fun _ => formatted fun _ => 0,
   withOneIn "strflocaltime" fun around => formatted around.ahead,
   withOne "strptime" fun v format => do
    let s ← v.asString
    let format ← format.asString
    match Moment.read format s with
    | .ok t => return partsValue t
    | .error fault =>
      throw (.ofText ("cannot parse " ++ s ++ " using " ++ format ++ ": " ++ fault.message))]

end Assay.Filter.Builtin
