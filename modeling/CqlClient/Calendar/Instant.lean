import CqlClient.Calendar.Clock

/-!
# Instants

Milliseconds from 1970-01-01T00:00:00 UTC, written and read in the form of RFC 3339.
-/

namespace CqlClient.Instant

def millisPerDay : Int := 86400000

def chars? (millis : Int) : Option (List Char) :=
  (Date.ofDays? (millis / millisPerDay)).map fun date =>
    let ofDay := (millis % millisPerDay).toNat
    let clock : Clock := ⟨ofDay / 1000, ofDay % 1000 * 1000000⟩
    date.chars ++ 'T' :: (clock.chars ++ ['+', '0', '0', ':', '0', '0'])

def scanMark? : List Char → Option (List Char)
  | [] => none
  | c :: rest => if c = 'T' ∨ c = 't' ∨ c = ' ' then some rest else none

def scanHoursMinutes? (cs : List Char) : Option (Int × List Char) := do
  let (hours, cs) ← Calendar.scanNumber? 2 2 cs
  let cs ← Calendar.scanChar? ':' cs
  let (minutes, cs) ← Calendar.scanNumber? 2 2 cs
  if hours < 24 ∧ minutes < 60 then some (hours * 60 + minutes, cs) else none

/-- Takes an offset from UTC, in minutes: a Z, or hours and minutes after a sign. -/
def scanOffset? : List Char → Option (Int × List Char)
  | [] => none
  | c :: rest =>
    if c = 'Z' ∨ c = 'z' then some (0, rest)
    else if c = '+' then scanHoursMinutes? rest
    else if c = '-' ∨ c = '\u2212' then (scanHoursMinutes? rest).map fun (m, rest) => (-m, rest)
    else none

def ofChars? (cs : List Char) : Option Int := do
  let (year, cs) ← Calendar.scanNumber? 4 4 cs
  let cs ← Calendar.scanChar? '-' cs
  let (month, cs) ← Calendar.scanNumber? 2 2 cs
  let cs ← Calendar.scanChar? '-' cs
  let (day, cs) ← Calendar.scanNumber? 2 2 cs
  let cs ← scanMark? cs
  let (hour, cs) ← Calendar.scanNumber? 2 2 cs
  let cs ← Calendar.scanChar? ':' cs
  let (minute, cs) ← Calendar.scanNumber? 2 2 cs
  let cs ← Calendar.scanChar? ':' cs
  let (second, cs) ← Calendar.scanNumber? 2 2 cs
  let (nanos, cs) ← Calendar.scanFraction? cs
  let (offset, cs) ← scanOffset? cs
  let date : Date := { year, month, day }
  let clock ← Clock.of? hour minute second nanos
  if cs.isEmpty && date.isValid then
    some (date.toDays * millisPerDay + clock.seconds * 1000 + (clock.nanos / 1000000 : Nat) -
      offset * 60000)
  else none

end CqlClient.Instant
