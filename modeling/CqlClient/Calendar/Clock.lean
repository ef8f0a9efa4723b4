import CqlClient.Calendar.Date

/-!
# Times of day

A clock reading is held as seconds from midnight and nanoseconds. A second 60 is a leap second: it
is held as second 59 with a whole second more of nanoseconds.
-/

namespace CqlClient

structure Clock where
  /-- Seconds from midnight. -/
  seconds : Nat
  /-- Nanoseconds into the second; one billion or more within a leap second. -/
  nanos : Nat
  deriving DecidableEq

namespace Clock

def nanosPerSecond : Nat := 1000000000

/-- The reading of an hour, a minute, a second and nanoseconds; second 60 is a leap second. -/
def of? (hour minute second nanos : Nat) : Option Clock :=
  if hour < 24 ∧ minute < 60 ∧ second ≤ 60 then
    if second = 60 then some ⟨hour * 3600 + minute * 60 + 59, nanosPerSecond + nanos⟩
    else some ⟨hour * 3600 + minute * 60 + second, nanos⟩
  else none

/-- The reading of seconds from midnight and nanoseconds; a leap second ends a minute. -/
def ofSeconds? (seconds nanos : Nat) : Option Clock :=
  if seconds < 86400 ∧ nanos < 2 * nanosPerSecond ∧
      (nanos < nanosPerSecond ∨ seconds % 60 = 59) then some ⟨seconds, nanos⟩
  else none

def toNanos (c : Clock) : Nat := c.seconds * nanosPerSecond + c.nanos

/-- A fraction of a second with three, six or nine digits, or none if it is zero. -/
def fractionChars (nanos : Nat) : List Char :=
  if nanos = 0 then []
  else if nanos % 1000000 = 0 then '.' :: Calendar.padded 3 (nanos / 1000000)
  else if nanos % 1000 = 0 then '.' :: Calendar.padded 6 (nanos / 1000)
  else '.' :: Calendar.padded 9 nanos

def chars (c : Clock) : List Char :=
  let leap := c.nanos / nanosPerSecond
  Calendar.padded 2 (c.seconds / 3600) ++ ':' ::
    (Calendar.padded 2 (c.seconds / 60 % 60) ++ ':' ::
      (Calendar.padded 2 (c.seconds % 60 + leap) ++ fractionChars (c.nanos % nanosPerSecond)))

def ofChars? (cs : List Char) : Option Clock := do
  let (hour, cs) ← Date.scanPart? cs
  let cs ← Calendar.scanChar? ':' cs
  let (minute, cs) ← Date.scanPart? cs
  let cs ← Calendar.scanChar? ':' cs
  let (second, cs) ← Date.scanPart? cs
  let (nanos, cs) ← Calendar.scanFraction? cs
  if cs.isEmpty then of? hour minute second nanos else none

end Clock

end CqlClient
