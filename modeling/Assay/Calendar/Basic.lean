/-!
# Calendar

Dates of the Gregorian calendar, extended to all years, and moments of time.  Days are
numbered from the first day of 1970, and a moment is a day with a time in it.  There are no
leap seconds, but a second may last longer than one second to make up for that.
-/

namespace Assay.Calendar

/-- A date.  Months and days are counted from one. -/
structure Date where
  year : Int
  month : Nat
  day : Nat
deriving DecidableEq

def isLeap (year : Int) : Bool := year % 4 = 0 ∧ (year % 100 ≠ 0 ∨ year % 400 = 0)

/-- The number of days of a month. -/
def monthLength (year : Int) (month : Nat) : Nat :=
  if month = 2 then (if isLeap year then 29 else 28)
  else if month ∈ [4, 6, 9, 11] then 30
  else 31

/-- The first and the last year that there are dates of. -/
def firstYear : Int := -262143

def lastYear : Int := 262142

namespace Date

/-- Whether there is such a date. -/
def isValid (d : Date) : Bool :=
  firstYear ≤ d.year && d.year ≤ lastYear && 1 ≤ d.month && d.month ≤ 12 && 1 ≤ d.day
    && d.day ≤ monthLength d.year d.month

/-- The number of days from the first of March of the year zero to the first of March of a
year. -/
def daysBefore (year : Int) : Int := 365 * year + year / 4 - year / 100 + year / 400

/-- The number of days from the first of March to a date in the twelve months after it. -/
def dayAfterFebruary (month day : Nat) : Nat :=
  let m := if 2 < month then month - 3 else month + 9
  (153 * m + 2) / 5 + day - 1

/-- The first day of 1970, counted from the first of March of the year zero. -/
def epoch : Int := 719468

/-- The number of the day. -/
def dayNumber (d : Date) : Int :=
  daysBefore (if 2 < d.month then d.year else d.year - 1) + dayAfterFebruary d.month d.day
    - epoch

/-- The date of the day of a number. -/
def ofDayNumber (n : Int) : Date :=
  let z := n + epoch
  -- A period of 400 years has 146097 days.
  let rest := (z % 146097).toNat
  let years := (rest - rest / 1460 + rest / 36524 - rest / 146096) / 365
  let day := rest - (365 * years + years / 4 - years / 100)
  let m := (5 * day + 2) / 153
  let month := if m < 10 then m + 3 else m - 9
  { year := z / 146097 * 400 + years + (if 2 < month then 0 else 1)
    month := month
    day := day - (153 * m + 2) / 5 + 1 }

/-- The days of the year before the date. -/
def ordinal (d : Date) : Nat := (d.dayNumber - (⟨d.year, 1, 1⟩ : Date).dayNumber).toNat

/-- The days since Sunday. -/
def sinceSunday (d : Date) : Nat := ((d.dayNumber + 4) % 7).toNat

/-- The days since Monday. -/
def sinceMonday (d : Date) : Nat := ((d.dayNumber + 3) % 7).toNat

/-- The weeks of the year that have started, if weeks start on Sunday. -/
def sundayWeek (d : Date) : Nat := (d.ordinal + 7 - d.sinceSunday) / 7

/-- The weeks of the year that have started, if weeks start on Monday. -/
def mondayWeek (d : Date) : Nat := (d.ordinal + 7 - d.sinceMonday) / 7

/-- The Thursday of the week of the date, if weeks start on Monday.  A week belongs to the
year of its Thursday. -/
def thursday (d : Date) : Date := ofDayNumber (d.dayNumber - d.sinceMonday + 3)

/-- The year that the week of the date belongs to. -/
def weekYear (d : Date) : Int := d.thursday.year

/-- The number of the week of the date in its year. -/
def week (d : Date) : Nat := d.thursday.ordinal / 7 + 1

def quarter (d : Date) : Nat := (d.month - 1) / 3 + 1

end Date

/-- A moment: a date, a time of the day in whole seconds, and nanoseconds after them. -/
structure Moment where
  date : Date
  second : Nat
  nano : Nat

namespace Moment

def secondsOfDay : Nat := 86400

/-- The seconds from the start of 1970 to the last whole second. -/
def seconds (t : Moment) : Int := t.date.dayNumber * secondsOfDay + t.second

/-- The microseconds from the start of 1970. -/
def micros (t : Moment) : Int := t.seconds * 1000000 + (t.nano / 1000 : Nat)

/-- The moment some microseconds after the start of 1970, if there is a date of it. -/
def ofMicros? (n : Int) : Option Moment :=
  let seconds := n / 1000000
  let date := Date.ofDayNumber (seconds / secondsOfDay)
  if date.isValid then
    some ⟨date, (seconds % secondsOfDay).toNat, (n % 1000000).toNat * 1000⟩
  else none

/-- The moment some seconds later. -/
def later (t : Moment) (seconds : Int) : Moment :=
  let n := t.seconds + seconds
  { t with
    date := .ofDayNumber (n / secondsOfDay)
    second := (n % secondsOfDay).toNat }

def hour (t : Moment) : Nat := t.second / 3600

def minute (t : Moment) : Nat := t.second / 60 % 60

def secondOfMinute (t : Moment) : Nat := t.second % 60

/-- The hour on a clock with twelve hours. -/
def clockHour (t : Moment) : Nat := if t.hour % 12 = 0 then 12 else t.hour % 12

def isAfternoon (t : Moment) : Bool := 12 ≤ t.hour

/-- The moment of a date and a time, if there is one. -/
def ofParts? (date : Date) (hour minute second nano : Nat) : Option Moment :=
  if date.isValid ∧ hour < 24 ∧ minute < 60 ∧ second < 60 then
    some ⟨date, 3600 * hour + 60 * minute + second, nano⟩
  else none

end Moment

/-! ## Names -/

def monthNames : List String :=
  ["January", "February", "March", "April", "May", "June", "July", "August", "September",
   "October", "November", "December"]

/-- The names of the days of a week that starts on Sunday. -/
def dayNames : List String :=
  ["Sunday", "Monday", "Tuesday", "Wednesday", "Thursday", "Friday", "Saturday"]

/-- The first three letters of a name. -/
def shortName (name : String) : String := .ofList (name.toList.take 3)

end Assay.Calendar
