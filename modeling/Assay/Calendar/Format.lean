import Assay.Calendar.Basic
import Assay.Decimal.Digits

/-!
# Formats of moments

A format is a text with directives, which start with a percent sign and stand for parts of
a moment.  `Item.ofFormat?` reads a format and `Item.write` writes a moment in it, of which the
time may be ahead of that at the prime meridian.
-/

namespace Assay.Calendar

/-- A number that is a part of a moment. -/
inductive Quantity where
  | year
  | century
  | yearOfCentury
  | weekYear
  | weekYearOfCentury
  | quarter
  | month
  | day
  | sundayWeek
  | mondayWeek
  | week
  | sinceSunday
  /-- The day of the week, with Monday as the first. -/
  | weekday
  | ordinal
  | hour
  | clockHour
  | minute
  | second
  | nano
  /-- The seconds from the start of 1970. -/
  | timestamp
deriving DecidableEq

/-- What fills a number up to its width. -/
inductive Fill where
  | nothing
  | zeros
  | blanks
deriving DecidableEq

/-- A part of a format. -/
inductive Item where
  | char (c : Char)
  | blank (c : Char)
  | number (q : Quantity) (fill : Fill)
  | monthName (short : Bool)
  | dayName (short : Bool)
  | halfOfDay (upper : Bool)
  /-- A fraction of a second after a point, with a number of digits or with as many groups
  of three as it takes. -/
  | fraction (digits : Option Nat)
  /-- A number of digits of a fraction of a second. -/
  | fractionDigits (digits : Nat)
  | zoneName
  /-- The distance from the prime meridian, as its hours and minutes, with a colon between
  them, with a colon and the seconds too, or as its hours alone. -/
  | zone (colons : Nat)
  /-- A moment as the internet standard writes it. -/
  | standard
deriving DecidableEq

namespace Quantity

/-- The number in a moment. -/
def value (t : Moment) : Quantity → Int
  | year => t.date.year
  | century => t.date.year / 100
  | yearOfCentury => t.date.year % 100
  | weekYear => t.date.weekYear
  | weekYearOfCentury => t.date.weekYear % 100
  | quarter => t.date.quarter
  | month => t.date.month
  | day => t.date.day
  | sundayWeek => t.date.sundayWeek
  | mondayWeek => t.date.mondayWeek
  | week => t.date.week
  | sinceSunday => t.date.sinceSunday
  | weekday => t.date.sinceMonday + 1
  | ordinal => t.date.ordinal + 1
  | hour => t.hour
  | clockHour => t.clockHour
  | minute => t.minute
  | second => t.secondOfMinute + (t.nano / 1000000000 : Nat)
  | nano => (t.nano % 1000000000 : Nat)
  | timestamp => t.seconds

/-- The number of digits up to which the number is filled up. -/
def width : Quantity → Nat
  | year | weekYear => 4
  | ordinal => 3
  | quarter | sinceSunday | weekday => 1
  | nano | timestamp => 9
  | _ => 2

/-- The number that a directive stands for, and how it is filled up. -/
def ofLetter? : Char → Option (Quantity × Fill)
  | 'Y' => some (year, .zeros)
  | 'C' => some (century, .zeros)
  | 'y' => some (yearOfCentury, .zeros)
  | 'G' => some (weekYear, .zeros)
  | 'g' => some (weekYearOfCentury, .zeros)
  | 'q' => some (quarter, .nothing)
  | 'm' => some (month, .zeros)
  | 'd' => some (day, .zeros)
  | 'e' => some (day, .blanks)
  | 'U' => some (sundayWeek, .zeros)
  | 'W' => some (mondayWeek, .zeros)
  | 'V' => some (week, .zeros)
  | 'w' => some (sinceSunday, .nothing)
  | 'u' => some (weekday, .nothing)
  | 'j' => some (ordinal, .zeros)
  | 'H' => some (hour, .zeros)
  | 'k' => some (hour, .blanks)
  | 'I' => some (clockHour, .zeros)
  | 'l' => some (clockHour, .blanks)
  | 'M' => some (minute, .zeros)
  | 'S' => some (second, .zeros)
  | 'f' => some (nano, .zeros)
  | 's' => some (timestamp, .nothing)
  | _ => none

end Quantity

namespace Item

/-- Whether a character is a blank in formats. -/
def isBlank (c : Char) : Bool := c = ' ' ∨ ('\x09' ≤ c ∧ c ≤ '\x0d')

/-- The item of a character that is written as it is. -/
def ofChar (c : Char) : Item := if isBlank c then blank c else char c

/-- The number of a letter. -/
def ofNumber (c : Char) : Option Item := (Quantity.ofLetter? c).map fun q => number q.1 q.2

/-- The format that a letter abbreviates. -/
def abbreviated? : Char → Option String
  | 'D' | 'x' => some "%m/%d/%y"
  | 'F' => some "%Y-%m-%d"
  | 'R' => some "%H:%M"
  | 'T' | 'X' => some "%H:%M:%S"
  | 'c' => some "%a %b %e %H:%M:%S %Y"
  | 'r' => some "%I:%M:%S %p"
  | 'v' => some "%e-%b-%Y"
  | _ => none

/-- The item of a letter that stands for no number. -/
def named? : Char → Option Item
  | 'B' => some (monthName false)
  | 'b' | 'h' => some (monthName true)
  | 'A' => some (dayName false)
  | 'a' => some (dayName true)
  | 'p' => some (halfOfDay true)
  | 'P' => some (halfOfDay false)
  | 'Z' => some zoneName
  | 'z' => some (zone 0)
  | '+' => some standard
  | 'n' => some (blank '\n')
  | 't' => some (blank '\t')
  | '%' => some (char '%')
  | _ => none

/-- The items of a format without abbreviations. -/
def ofPlainFormat? : List Char → Option (List Item)
  | [] => some []
  | '%' :: '-' :: c :: rest => refill .nothing c rest
  | '%' :: '0' :: c :: rest => refill .zeros c rest
  | '%' :: '_' :: c :: rest => refill .blanks c rest
  | '%' :: '.' :: 'f' :: rest => (ofPlainFormat? rest).map (fraction none :: ·)
  | '%' :: '.' :: '3' :: 'f' :: rest => (ofPlainFormat? rest).map (fraction (some 3) :: ·)
  | '%' :: '.' :: '6' :: 'f' :: rest => (ofPlainFormat? rest).map (fraction (some 6) :: ·)
  | '%' :: '.' :: '9' :: 'f' :: rest => (ofPlainFormat? rest).map (fraction (some 9) :: ·)
  | '%' :: '3' :: 'f' :: rest => (ofPlainFormat? rest).map (fractionDigits 3 :: ·)
  | '%' :: '6' :: 'f' :: rest => (ofPlainFormat? rest).map (fractionDigits 6 :: ·)
  | '%' :: '9' :: 'f' :: rest => (ofPlainFormat? rest).map (fractionDigits 9 :: ·)
  | '%' :: ':' :: 'z' :: rest => (ofPlainFormat? rest).map (zone 1 :: ·)
  | '%' :: ':' :: ':' :: 'z' :: rest => (ofPlainFormat? rest).map (zone 2 :: ·)
  | '%' :: ':' :: ':' :: ':' :: 'z' :: rest => (ofPlainFormat? rest).map (zone 3 :: ·)
  | '%' :: c :: rest => do return (← (ofNumber c).or (named? c)) :: (← ofPlainFormat? rest)
  | ['%'] => none
  | c :: rest => (ofPlainFormat? rest).map (ofChar c :: ·)
where
  refill (fill : Fill) (c : Char) (rest : List Char) : Option (List Item) := do
    let (q, _) ← Quantity.ofLetter? c
    return number q fill :: (← ofPlainFormat? rest)

/-- A format with every abbreviation written out. -/
def expand : List Char → List Char
  | '%' :: c :: rest =>
    match abbreviated? c with
    | some format => format.toList ++ expand rest
    | none => '%' :: c :: expand rest
  | c :: rest => c :: expand rest
  | [] => []

/-- The items of a format, if all its directives are known. -/
def ofFormat? (format : String) : Option (List Item) := ofPlainFormat? (expand format.toList)

/-! ## Writing -/

/-- Fills a number up to a width.  The sign comes before zeros and after blanks. -/
def filled (fill : Fill) (width : Nat) (plus : Bool) (i : Int) : List Char :=
  let sign := if i < 0 then ['-'] else if plus then ['+'] else []
  let ds := Decimal.digits i.natAbs
  match fill with
  | .nothing => sign ++ ds
  | .zeros => sign ++ List.replicate (width - ds.length) '0' ++ ds
  | .blanks =>
    let width := if sign.isEmpty then width else width + 1
    List.replicate (width - (sign ++ ds).length) ' ' ++ sign ++ ds

/-- A number with the sign that years of more than four digits have. -/
def writeNumber (q : Quantity) (fill : Fill) (i : Int) : List Char :=
  let plus := (q = .year ∨ q = .weekYear) ∧ 9999 < i
  filled fill q.width plus i

/-- The first digits of the nanoseconds. -/
def nanoDigits (digits nano : Nat) : List Char :=
  (filled .zeros 9 false (nano % 1000000000 : Nat)).take digits

/-- A fraction of a second after a point, with as many groups of three digits as it takes. -/
def writeFraction (nano : Nat) : List Char :=
  let n := nano % 1000000000
  if n = 0 then []
  else if n % 1000000 = 0 then '.' :: nanoDigits 3 n
  else if n % 1000 = 0 then '.' :: nanoDigits 6 n
  else '.' :: nanoDigits 9 n

/-- The name at a place. -/
def writeName (names : List String) (short : Bool) (i : Nat) : List Char :=
  let name := names[i]?.getD ""
  (if short then shortName name else name).toList

/-- A number of two digits. -/
def writePair (n : Nat) : List Char := filled .zeros 2 false n

/-- By how many seconds a time is ahead of that at the prime meridian, rounded to minutes
unless the seconds are shown, or cut off to hours. -/
def writeAhead (colons : Nat) (seconds : Int) : List Char :=
  let sign := if seconds < 0 then '-' else '+'
  let n := seconds.natAbs
  let minutes := (n + 30) / 60
  sign :: match colons with
    | 0 => writePair (minutes / 60) ++ writePair (minutes % 60)
    | 1 => writePair (minutes / 60) ++ ':' :: writePair (minutes % 60)
    | 2 => writePair (n / 3600) ++ ':' :: writePair (n / 60 % 60) ++ ':' :: writePair (n % 60)
    | _ => writePair (n / 3600)

/-- The part of a moment that an item of a single directive stands for.  The time is `ahead`
seconds ahead of that at the prime meridian. -/
def writeItem (ahead : Int) (t : Moment) : Item → List Char
  | char c | blank c => [c]
  | number .timestamp fill => writeNumber .timestamp fill (t.seconds - ahead)
  | number q fill => writeNumber q fill (q.value t)
  | monthName short => writeName monthNames short (t.date.month - 1)
  | dayName short => writeName dayNames short t.date.sinceSunday
  | halfOfDay upper =>
    (if t.isAfternoon then (if upper then "PM" else "pm")
      else if upper then "AM" else "am").toList
  | fraction none => writeFraction t.nano
  | fraction (some n) => '.' :: nanoDigits n t.nano
  | fractionDigits n => nanoDigits n t.nano
  | zoneName => writeAhead (if ahead % 60 = 0 then 1 else 2) ahead
  | zone colons => writeAhead colons ahead
  | standard => []

/-- The items of a moment as the internet standard writes it. -/
def standardItems : List Item :=
  (ofFormat? "%Y-%m-%dT%H:%M:%S%.f%:z").getD []

/-- A moment in a format. -/
def write (ahead : Int) (t : Moment) (items : List Item) : String :=
  .ofList (items.flatMap fun
    | standard => standardItems.flatMap (writeItem ahead t)
    | item => writeItem ahead t item)

end Item

/-- A moment in a format, if all directives of the format are known.  The time of the moment is
`ahead` seconds ahead of that at the prime meridian. -/
def Moment.format? (t : Moment) (ahead : Int) (format : String) : Option String :=
  (Item.ofFormat? format).map (Item.write ahead t)

end Assay.Calendar
