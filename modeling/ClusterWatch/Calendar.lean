/-
Dates of the proleptic Gregorian calendar and instants of universal time.

An instant counts milliseconds from the start of 1970 and may be negative.  A date is counted in
days from the same origin, which turns every comparison and shift of dates into arithmetic.  The
count goes through years that begin in March, so that the leap day is the last day of a year.
-/
import ClusterWatch.Number.Decimal
import ClusterWatch.Text.Blank

namespace ClusterWatch

/-- Milliseconds since the start of 1970 in universal time. -/
abbrev Instant := Int

structure Date where
  year : Int
  month : Nat
  day : Nat
deriving DecidableEq, Repr, Inhabited

namespace Date

def isLeap (year : Int) : Bool := year % 4 == 0 && (year % 100 != 0 || year % 400 == 0)

/-- The number of days of a month; zero for a number that names no month. -/
def daysInMonth (year : Int) (month : Nat) : Nat :=
  match month with
  | 2 => if isLeap year then 29 else 28
  | 4 | 6 | 9 | 11 => 30
  | 1 | 3 | 5 | 7 | 8 | 10 | 12 => 31
  | _ => 0

/-- The first and the last year that dates are kept for. -/
def yearRange : Int × Int := (-262143, 262142)

/-- Whether the date exists and lies in the range of years that dates are kept for. -/
def isValid (d : Date) : Bool :=
  yearRange.1 ≤ d.year && d.year ≤ yearRange.2 && 1 ≤ d.day && d.day ≤ daysInMonth d.year d.month

/-- Days from the first of January 1970 to a date. -/
def dayNumber (d : Date) : Int :=
  let y := if d.month ≤ 2 then d.year - 1 else d.year
  let era := y / 400
  let yearOfEra := y - era * 400
  let dayOfYear : Int := (153 * ((d.month + 9) % 12) + 2) / 5 + d.day - 1
  let dayOfEra := yearOfEra * 365 + yearOfEra / 4 - yearOfEra / 100 + dayOfYear
  era * 146097 + dayOfEra - 719468

def ofDayNumber (n : Int) : Date :=
  let z := n + 719468
  let era := z / 146097
  let dayOfEra := z - era * 146097
  let yearOfEra := (dayOfEra - dayOfEra / 1460 + dayOfEra / 36524 - dayOfEra / 146096) / 365
  let dayOfYear := dayOfEra - (365 * yearOfEra + yearOfEra / 4 - yearOfEra / 100)
  let monthFromMarch := (5 * dayOfYear + 2) / 153
  let day := dayOfYear - (153 * monthFromMarch + 2) / 5 + 1
  let month := if monthFromMarch < 10 then monthFromMarch + 3 else monthFromMarch - 9
  ⟨yearOfEra + era * 400 + (if month ≤ 2 then 1 else 0), month.toNat, day.toNat⟩

/-- A number in at least `width` digits, zeros in front. -/
def padded (width n : Nat) : List Char :=
  let ds := Decimal.digits n
  List.replicate (width - ds.length) '0' ++ ds

/-- A year in four digits; one outside 0 to 9999 carries its sign. -/
def yearDigits (year : Int) : List Char :=
  if 0 ≤ year ∧ year ≤ 9999 then padded 4 year.toNat
  else (if year < 0 then '-' else '+') :: padded 4 year.natAbs

/-- Year, month and day with hyphens between them. -/
def toList (d : Date) : List Char :=
  yearDigits d.year ++ '-' :: padded 2 d.month ++ '-' :: padded 2 d.day

/-- Takes between one and `most` digits from the front. -/
def takeNumber? (most : Nat) (cs : List Char) : Option (Nat × List Char) :=
  let ds := (cs.take most).takeWhile Text.isDigit
  (Decimal.readDigits? ds).map fun n => (n, cs.drop ds.length)

/-- Takes a year: after a sign any number of digits, else at most four. -/
def takeYear? (cs : List Char) : Option (Int × List Char) :=
  match cs with
  | '-' :: r => (takeNumber? r.length r).map fun (n, t) => (-(n : Int), t)
  | '+' :: r => (takeNumber? r.length r).map fun (n, t) => ((n : Int), t)
  | r => (takeNumber? 4 r).map fun (n, t) => ((n : Int), t)

def takeHyphen? : List Char → Option (List Char)
  | '-' :: r => some r
  | _ => none

/-- Reads a date: year, month and day joined by hyphens, blanks allowed in front of each number,
one or two digits for month and day, and nothing after the day. -/
def read? (cs : List Char) : Option Date := do
  let (year, r) ← takeYear? (Text.dropBlanks cs)
  let r ← takeHyphen? r
  let (month, r) ← takeNumber? 2 (Text.dropBlanks r)
  let r ← takeHyphen? r
  let (day, r) ← takeNumber? 2 (Text.dropBlanks r)
  let date : Date := ⟨year, month, day⟩
  if r.isEmpty && date.isValid then some date else none

end Date

namespace Instant

def dayMillis : Int := 86400000

def date (t : Instant) : Date := Date.ofDayNumber (t / dayMillis)

/-- Hours, minutes and seconds of an instant, with colons between them. -/
def clockTime (t : Instant) : List Char :=
  let seconds := (t % dayMillis / 1000).toNat
  Date.padded 2 (seconds / 3600) ++ ':' :: Date.padded 2 (seconds / 60 % 60) ++
    ':' :: Date.padded 2 (seconds % 60)

/-- An instant to the second, as readers of a message see it. -/
def toMessageText (t : Instant) : String :=
  String.ofList (t.date.toList ++ ' ' :: clockTime t ++ " UTC".toList)

/-- An instant in the internet date format; milliseconds appear only if there are any. -/
def toInternetText (t : Instant) : String :=
  let millis := (t % 1000).toNat
  let fraction := if millis = 0 then [] else '.' :: Date.padded 3 millis
  String.ofList (t.date.toList ++ 'T' :: clockTime t ++ fraction ++ ['Z'])

end Instant
end ClusterWatch
