import Assay.Calendar.Format
import Assay.Decimal.Digits
import Assay.Text.Basic

/-!
# Reading moments

The moment that a text stands for, in a format or as the internet standard writes it.  The
items of a format are read from the first to the last into the parts of a moment; a part may
be told twice if both tell the same.  Then the parts are put together.
-/

namespace Assay.Calendar

/-- Why a text is no moment. -/
inductive ReadingFault where
  | outOfRange
  /-- There is no moment with all the parts. -/
  | impossible
  | notEnough
  | invalid
  | tooShort
  | tooLong
  /-- The format is no format. -/
  | badFormat
deriving DecidableEq

/-- The wording of a fault. -/
def ReadingFault.message : ReadingFault → String
  | outOfRange => "input is out of range"
  | impossible => "no possible date and time matching input"
  | notEnough => "input is not enough for unique date and time"
  | invalid => "input contains invalid characters"
  | tooShort => "premature end of input"
  | tooLong => "trailing input"
  | badFormat => "bad or unsupported format string"

/-- Parts of a moment. -/
structure Parts where
  /-- The numbers that were read. -/
  numbers : List (Quantity × Int)
  isAfternoon : Option Bool
  /-- The seconds from the prime meridian. -/
  offset : Option Int

namespace Parts

def none : Parts := ⟨[], .none, .none⟩

def get? (p : Parts) (q : Quantity) : Option Int := p.numbers.lookup q

/-- The least and the greatest value of a number. -/
def range? : Quantity → Option (Int × Int)
  | .century | .yearOfCentury | .weekYearOfCentury => some (0, 2147483647)
  | .quarter => some (1, 4)
  | .month => some (1, 12)
  | .day => some (1, 31)
  | .sundayWeek | .mondayWeek => some (0, 53)
  | .week => some (1, 53)
  | .sinceSunday => some (0, 6)
  | .weekday => some (1, 7)
  | .ordinal => some (1, 366)
  | .hour => some (0, 23)
  | .clockHour => some (1, 12)
  | .minute => some (0, 59)
  | .second => some (0, 60)
  | .nano => some (0, 999999999)
  | .year | .weekYear => some (-2147483648, 2147483647)
  | .timestamp => .none

/-- Tells a number, which must not differ from what was told before. -/
def put (p : Parts) (q : Quantity) (i : Int) : Except ReadingFault Parts :=
  match p.get? q with
  | .none => .ok { p with numbers := (q, i) :: p.numbers }
  | some j => if i = j then .ok p else .error .impossible

/-- Tells which half of the day it is. -/
def putHalf (p : Parts) (b : Bool) : Except ReadingFault Parts :=
  match p.isAfternoon with
  | .none => .ok { p with isAfternoon := some b }
  | some c => if b = c then .ok p else .error .impossible

/-- Tells the distance from the prime meridian. -/
def putOffset (p : Parts) (i : Int) : Except ReadingFault Parts :=
  match p.offset with
  | .none => .ok { p with offset := some i }
  | some j => if i = j then .ok p else .error .impossible

/-- Tells a number that was read.  An hour is told by the half of the day and the hour in
it, and a day of the week as one with Monday as the first. -/
def set (p : Parts) (q : Quantity) (i : Int) : Except ReadingFault Parts :=
  let inRange : Bool := match range? q with
    | .none => true
    | some (low, high) => low ≤ i ∧ i ≤ high
  if ¬ inRange then .error .outOfRange
  else match q with
    | .hour => do (← p.putHalf (12 ≤ i)).put .clockHour (i % 12)
    | .clockHour => p.put .clockHour (i % 12)
    | .sinceSunday => p.put .weekday (if i = 0 then 7 else i)
    | q => p.put q i

end Parts

/-! ## Scanning -/

/-- The number of bytes of a text. -/
def byteCount (cs : List Char) : Nat := cs.foldl (fun n c => n + c.utf8Size) 0

/-- A number of at least `least` and at most `most` digits, and what comes after it. -/
def scanNumber (least most : Nat) (cs : List Char) : Except ReadingFault (Int × List Char) :=
  if byteCount cs < least then .error .tooShort
  else
    let ds := (cs.take most).takeWhile Char.isDigit
    if ds.length < least then .error .invalid
    else
      let n : Int := Decimal.value ds
      if Word.isSigned n then .ok (n, cs.drop ds.length) else .error .outOfRange

/-- What comes after a character. -/
def scanChar (c : Char) : List Char → Except ReadingFault (List Char)
  | [] => .error .tooShort
  | d :: rest => if c = d then .ok rest else .error .invalid

/-- What comes after a word, in either case. -/
def scanWord? (word : String) (cs : List Char) : Option (List Char) :=
  let start := cs.take word.length
  if start.map Char.toLower = word.toList.map Char.toLower then some (cs.drop word.length)
  else none

/-- The place of the name that a text starts with, in either case, and what comes after it.
Its first three letters are enough, and unless `short` is told the others are read too. -/
def scanName (names : List String) (short : Bool) (cs : List Char) :
    Except ReadingFault (Nat × List Char) :=
  if byteCount cs < 3 then .error .tooShort
  else
    let found := names.zipIdx.findSome? fun (name, i) =>
      (scanWord? (shortName name) cs).map fun rest =>
        if short then (i, rest) else (i, (scanWord? name cs).getD rest)
    match found with
    | some r => .ok r
    | none => .error .invalid

/-- The nanoseconds of the digits after a point, and what comes after them. -/
def scanFraction (cs : List Char) : Except ReadingFault (Int × List Char) := do
  let (n, rest) ← scanNumber 1 9 cs
  return (n * Nat.pow 10 (9 - (cs.length - rest.length)), rest.dropWhile Char.isDigit)

/-- The value of two digits in front, of which the first is at most `top`. -/
def twoDigits (top : Char) : List Char → Except ReadingFault (Int × List Char)
  | a :: b :: rest =>
    if a.isDigit ∧ b.isDigit then
      if a ≤ top then .ok (Decimal.value [a, b], rest) else .error .outOfRange
    else .error .invalid
  | cs => .error (if byteCount cs < 2 then .tooShort else .invalid)

/-- The seconds from the prime meridian, and what comes after them.  `separate` drops what
stands between hours and minutes. -/
def scanOffset (zulu : Bool) (separate : List Char → Except ReadingFault (List Char))
    (cs : List Char) : Except ReadingFault (Int × List Char) :=
  let unsigned (sign : Int) (cs : List Char) : Except ReadingFault (Int × List Char) := do
    let (hours, cs) ← twoDigits '9' cs
    let (minutes, cs) ← twoDigits '5' (← separate cs)
    return (sign * (3600 * hours + 60 * minutes), cs)
  match cs with
  | [] => .error .tooShort
  | c :: rest =>
    if zulu ∧ (c = 'Z' ∨ c = 'z') then .ok (0, rest)
    else if c = '+' then unsigned 1 rest
    else if c = '-' ∨ c = '\u2212' then unsigned (-1) rest
    else .error .invalid

/-- Drops colons and blanks. -/
def dropColons (cs : List Char) : List Char := cs.dropWhile fun c => c = ':' ∨ Text.isBlank c

/-- How many digits of a number are read at most. -/
def Quantity.readWidth : Quantity → Nat
  | timestamp => 100
  | q => q.width

/-- Whether a number may have a sign. -/
def Quantity.isSigned (q : Quantity) : Bool := q ∈ [year, weekYear, timestamp]

/-- Reads a number. -/
def scanQuantity (q : Quantity) (cs : List Char) : Except ReadingFault (Int × List Char) :=
  match Text.trimStart cs with
  | '-' :: rest =>
    if q.isSigned then do
      let (n, rest) ← scanNumber 1 rest.length rest
      return (-n, rest)
    else scanNumber 1 q.readWidth ('-' :: rest)
  | '+' :: rest =>
    if q.isSigned then scanNumber 1 rest.length rest
    else scanNumber 1 q.readWidth ('+' :: rest)
  | cs => scanNumber 1 q.readWidth cs

namespace Parts

/-- Reads an item, but not a character that is written as it is. -/
def readItem (p : Parts) (cs : List Char) : Item → Except ReadingFault (Parts × List Char)
  | .char _ => .ok (p, cs)
  | .blank _ => .ok (p, Text.trimStart cs)
  | .number q _ => do
    let (n, rest) ← scanQuantity q cs
    return (← p.set q n, rest)
  | .monthName short => do
    let (i, rest) ← scanName monthNames short cs
    return (← p.set .month (i + 1 : Nat), rest)
  | .dayName short => do
    let (i, rest) ← scanName dayNames short cs
    return (← p.set .sinceSunday i, rest)
  | .halfOfDay _ =>
    if byteCount cs < 2 then .error .tooShort
    else match scanWord? "am" cs, scanWord? "pm" cs with
      | some rest, _ => do return (← p.putHalf false, rest)
      | _, some rest => do return (← p.putHalf true, rest)
      | _, _ => .error .invalid
  | .fraction _ =>
    match cs with
    | '.' :: rest => do
      let (n, rest) ← scanFraction rest
      return (← p.set .nano n, rest)
    | cs => .ok (p, cs)
  | .fractionDigits k =>
    if byteCount cs < k then .error .tooShort
    else do
      let (n, rest) ← scanNumber k k cs
      return (← p.set .nano (n * Nat.pow 10 (9 - k)), rest)
  | .zoneName => .ok (p, cs.dropWhile fun c => !Text.isBlank c)
  | .zone _ => do
    let (i, rest) ← scanOffset false (fun cs => .ok (dropColons cs)) (Text.trimStart cs)
    return (← p.putOffset i, rest)
  | .standard => .error .badFormat

/-- The characters at the start of items that are written as they are. -/
def literal : List Item → List Char
  | .char c :: rest => c :: literal rest
  | _ => []

/-- Reads items.  Characters that follow one another are compared together. -/
def readItems (p : Parts) (inLiteral : Bool) (cs : List Char) :
    List Item → Except ReadingFault Parts
  | [] => if cs.isEmpty then .ok p else .error .tooLong
  | .char c :: rest =>
    if inLiteral then readItems p true (cs.drop 1) rest
    else
      let word := literal (.char c :: rest)
      if byteCount cs < byteCount word then .error .tooShort
      else if ¬ word.isPrefixOf cs then .error .invalid
      else readItems p true (cs.drop 1) rest
  | item :: rest => do
    let (p, cs) ← p.readItem cs item
    readItems p false cs rest

/-! ## Putting parts together -/

/-- A year from the whole of it or from its century and the rest.  A year of two digits is
in the hundred years from 1970 on. -/
def resolveYear (whole century rest : Option Int) : Except ReadingFault (Option Int) :=
  match whole, century, rest with
  | some y, .none, .none => .ok (some y)
  | some y, q, r =>
    if y < 0 then .error .impossible
    else if r.any (99 < ·) then .error .outOfRange
    else if q.getD (y / 100) = y / 100 ∧ r.getD (y % 100) = y % 100 then .ok (some y)
    else .error .impossible
  | .none, some q, some r => if r ≤ 99 then .ok (some (q * 100 + r)) else .error .outOfRange
  | .none, .none, some r =>
    if 99 < r then .error .outOfRange
    else .ok (some (r + if r < 70 then 2000 else 1900))
  | .none, some _, .none => .error .notEnough
  | .none, .none, .none => .ok .none

/-- Whether a part was not told or is what it is told to be. -/
def agrees (p : Parts) (q : Quantity) (i : Int) : Bool := (p.get? q).all (· = i)

/-- Whether the parts of a date that were told are those of a date. -/
def fits (p : Parts) (year weekYear : Option Int) (d : Date) : Bool :=
  year.all (· = d.year) && weekYear.all (· = d.weekYear) && p.agrees .quarter d.quarter
    && p.agrees .month d.month && p.agrees .day d.day && p.agrees .sundayWeek d.sundayWeek
    && p.agrees .mondayWeek d.mondayWeek && p.agrees .week d.week
    && p.agrees .weekday (d.sinceMonday + 1) && p.agrees .ordinal (d.ordinal + 1)

/-- The date in a year, in a week and on a day of the week.  Days before the first full week
are in the week of number zero. -/
def dateOfWeek (year : Int) (week days : Int) (since : Date → Nat) :
    Except ReadingFault Date :=
  let newYear : Date := ⟨year, 1, 1⟩
  let firstWeek : Int := (7 - since newYear : Int) % 7
  let ordinal := firstWeek + (week - 1) * 7 + days
  if ordinal < 0 then .error .impossible
  else
    let d := Date.ofDayNumber (newYear.dayNumber + ordinal)
    if d.year = year then .ok d else .error .impossible

/-- The date of parts. -/
def date (p : Parts) : Except ReadingFault Date := do
  let year ← resolveYear (p.get? .year) (p.get? .century) (p.get? .yearOfCentury)
  let weekYear ← resolveYear (p.get? .weekYear) .none (p.get? .weekYearOfCentury)
  let weekday := p.get? .weekday
  let found ← match year, p.get? .month, p.get? .day with
    | some y, some m, some d => pure (some (⟨y, m.toNat, d.toNat⟩ : Date))
    | _, _, _ =>
      match year, p.get? .ordinal with
      | some y, some n =>
        let d := Date.ofDayNumber ((⟨y, 1, 1⟩ : Date).dayNumber + n - 1)
        if d.year = y then pure (some d) else throw .outOfRange
      | _, _ =>
        match year, p.get? .sundayWeek, p.get? .mondayWeek, weekday with
        | some y, some w, _, some k =>
          some <$> dateOfWeek y w (k % 7) Date.sinceSunday
        | some y, _, some w, some k =>
          some <$> dateOfWeek y w (k - 1) Date.sinceMonday
        | _, _, _, _ =>
          match weekYear, p.get? .week, weekday with
          | some y, some w, some k =>
            let d := Date.ofDayNumber
              ((⟨y, 1, 4⟩ : Date).dayNumber - (⟨y, 1, 4⟩ : Date).sinceMonday + (w - 1) * 7 + k - 1)
            if d.weekYear = y then pure (some d) else throw .outOfRange
          | _, _, _ => pure .none
  match found with
  | .none => throw .notEnough
  | some d =>
    if ¬ d.isValid then throw .outOfRange
    if p.fits year weekYear d then return d else throw .impossible

/-- The second of the day and the nanoseconds of parts.  A sixtieth second makes the one
before it last longer. -/
def time (p : Parts) : Except ReadingFault (Nat × Nat) :=
  match p.isAfternoon, p.get? .clockHour, p.get? .minute with
  | some b, some h, some m =>
    let second := (p.get? .second).getD 0
    let (second, extra) := if second = 60 then (59, 1000000000) else (second, 0)
    let hour := h + if b then 12 else 0
    match p.get? .nano, p.get? .second with
    | some _, .none => .error .notEnough
    | nano, _ => .ok ((3600 * hour + 60 * m + second).toNat, extra + (nano.getD 0).toNat)
  | _, _, _ => .error .notEnough

/-- The moment of a timestamp, if the other parts that were told agree with it. -/
def ofTimestamp (p : Parts) (n : Int) : Except ReadingFault Moment :=
  match Moment.ofMicros? (n * 1000000) with
  | .none => .error .outOfRange
  | some t =>
    let year := p.get? .year
    if p.fits year (p.get? .weekYear) t.date ∧ p.agrees .minute t.minute
        ∧ p.agrees .second t.secondOfMinute ∧ p.agrees .clockHour (t.hour % 12 : Nat)
        ∧ p.isAfternoon.all (· = t.isAfternoon) then .ok t
    else .error .impossible

/-- The moment of parts, without regard to the distance from the prime meridian. -/
def moment (p : Parts) : Except ReadingFault Moment :=
  match p.date, p.time, p.get? .timestamp with
  | .ok d, .ok (second, nano), stamp =>
    let t : Moment := ⟨d, second, nano⟩
    if stamp.all fun n => n = t.seconds ∨ (1000000000 ≤ nano ∧ n = t.seconds + 1) then .ok t
    else .error .impossible
  | .error .notEnough, _, some n | .ok _, .error .notEnough, some n => p.ofTimestamp n
  | .error fault, _, _ => .error fault
  | _, .error fault, _ => .error fault

end Parts

/-- The moment that a text stands for in a format. -/
def Moment.read (format text : String) : Except ReadingFault Moment :=
  match Item.ofFormat? format with
  | none => .error .badFormat
  | some items => do (← Parts.none.readItems false text.toList items).moment

/-- The moment that a text stands for as the internet standard writes it, reduced to the
prime meridian. -/
def Moment.readStandard (text : String) : Except ReadingFault Moment := do
  let number (p : Parts) (q : Quantity) (digits : Nat) (cs : List Char) :
      Except ReadingFault (Parts × List Char) := do
    let (n, rest) ← scanNumber digits digits cs
    return (← p.set q n, rest)
  let (p, cs) ← number .none .year 4 text.toList
  let (p, cs) ← number p .month 2 (← scanChar '-' cs)
  let (p, cs) ← number p .day 2 (← scanChar '-' cs)
  let cs ← match cs with
    | [] => throw .tooShort
    | c :: rest => if c ∈ ['t', 'T', ' '] then pure rest else throw .invalid
  let (p, cs) ← number p .hour 2 cs
  let (p, cs) ← number p .minute 2 (← scanChar ':' cs)
  let (p, cs) ← number p .second 2 (← scanChar ':' cs)
  let (p, cs) ← p.readItem cs (.fraction none)
  let (offset, cs) ← scanOffset true (scanChar ':') cs
  if 86400 ≤ offset ∨ offset ≤ -86400 then throw .outOfRange
  if ¬ cs.isEmpty then throw .tooLong
  let t ← p.moment
  let seconds := t.seconds - offset
  match Moment.ofMicros? (seconds * 1000000) with
  | none => throw .outOfRange
  | some u => return { u with nano := t.nano }

end Assay.Calendar
