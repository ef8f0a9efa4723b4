import CqlClient.Calendar.Scan
import CqlClient.Text.Blank

/-!
# Dates

Days of the proleptic Gregorian calendar, counted from 1970-01-01. Years start in March for the
count, so that a leap day is the last of its year.
-/

namespace CqlClient

structure Date where
  year : Int
  month : Nat
  day : Nat
  deriving DecidableEq

namespace Date

def isLeapYear (year : Int) : Bool := year % 4 = 0 && (year % 100 ≠ 0 || year % 400 = 0)

def daysInMonth (year : Int) (month : Nat) : Nat :=
  if month = 2 then (if isLeapYear year then 29 else 28)
  else if month = 4 ∨ month = 6 ∨ month = 9 ∨ month = 11 then 30
  else 31

def leastYear : Int := -262143

def greatestYear : Int := 262142

def isValid (d : Date) : Bool :=
  leastYear ≤ d.year && d.year ≤ greatestYear && 1 ≤ d.month && d.month ≤ 12 && 1 ≤ d.day &&
    d.day ≤ daysInMonth d.year d.month

/-- Days from 1970-01-01. -/
def toDays (d : Date) : Int :=
  let year := if d.month ≤ 2 then d.year - 1 else d.year
  let yearOfEra := year % 400
  let monthFromMarch := (d.month + 9) % 12
  let dayOfYear := (153 * monthFromMarch + 2) / 5 + d.day - 1
  let dayOfEra := yearOfEra * 365 + yearOfEra / 4 - yearOfEra / 100 + dayOfYear
  year / 400 * 146097 + dayOfEra - 719468

def ofDays (days : Int) : Date :=
  let shifted := days + 719468
  let dayOfEra := (shifted % 146097).toNat
  let yearOfEra := (dayOfEra - dayOfEra / 1460 + dayOfEra / 36524 - dayOfEra / 146096) / 365
  let dayOfYear := dayOfEra - (365 * yearOfEra + yearOfEra / 4 - yearOfEra / 100)
  let monthFromMarch := (5 * dayOfYear + 2) / 153
  let day := dayOfYear - (153 * monthFromMarch + 2) / 5 + 1
  let month := if monthFromMarch < 10 then monthFromMarch + 3 else monthFromMarch - 9
  let year := shifted / 146097 * 400 + yearOfEra
  { year := if month ≤ 2 then year + 1 else year, month, day }

/-- A year has four digits; outside 0 … 9999 it has a sign. -/
def yearChars (year : Int) : List Char :=
  if 0 ≤ year ∧ year ≤ 9999 then Calendar.padded 4 year.toNat
  else (if year < 0 then '-' else '+') :: Calendar.padded 4 year.natAbs

def chars (d : Date) : List Char :=
  yearChars d.year ++ '-' :: (Calendar.padded 2 d.month ++ '-' :: Calendar.padded 2 d.day)

def scanDigits? (cs : List Char) : Option (Nat × List Char) :=
  let ds := cs.takeWhile Char.isDigit
  if ds = [] then none else some (Nat.ofDigitChars 10 ds 0, cs.drop ds.length)

/-- Takes a year after blanks: digits after a sign, or up to four digits without one. -/
def scanYear? (cs : List Char) : Option (Int × List Char) :=
  match cs.dropWhile Text.isBlank with
  | '-' :: rest => (scanDigits? rest).map fun (n, rest) => (-(n : Int), rest)
  | '+' :: rest => (scanDigits? rest).map fun (n, rest) => ((n : Int), rest)
  | rest => (Calendar.scanNumber? 1 4 rest).map fun (n, rest) => ((n : Int), rest)

def scanPart? (cs : List Char) : Option (Nat × List Char) :=
  Calendar.scanNumber? 1 2 (cs.dropWhile Text.isBlank)

def ofChars? (cs : List Char) : Option Date := do
  let (year, cs) ← scanYear? cs
  let cs ← Calendar.scanChar? '-' cs
  let (month, cs) ← scanPart? cs
  let cs ← Calendar.scanChar? '-' cs
  let (day, cs) ← scanPart? cs
  let date : Date := { year, month, day }
  if cs.isEmpty && date.isValid then some date else none

def ofDays? (days : Int) : Option Date :=
  let date := ofDays days
  if leastYear ≤ date.year ∧ date.year ≤ greatestYear then some date else none

end Date

end CqlClient
