import CqlClient.Calendar.Instant
import CqlClient.Proofs.Calendar.Clock
import CqlClient.Proofs.Calendar.Days

/-!
# Days and instants as texts

The text of a day is read as the day, whatever its year, by `Date.ofChars?_chars`. The text of an
instant is read as the instant unless its year has a sign, by `Instant.ofChars?_of_chars?`. With a
sign it is not read at all, by `Instant.ofChars?_of_signed`.
-/

namespace CqlClient

open Calendar

variable {ds rest : List Char} {n : Nat}

namespace Date

/-! ## Days -/

theorem scanDigits?_append (digits : ∀ d ∈ ds, d.isDigit) (filled : ds ≠ []) (stops : Stops rest) :
    scanDigits? (ds ++ rest) = some (Nat.ofDigitChars 10 ds 0, rest) := by
  simp only [scanDigits?, List.takeWhile_append_of_pos digits, takeWhile_of_stops stops,
    List.append_nil]
  rw [if_neg filled, List.drop_left]

theorem scanYear?_digits (digits : ∀ d ∈ ds, d.isDigit) (filled : ds ≠ []) :
    scanYear? (ds ++ rest) =
      (scanNumber? 1 4 (ds ++ rest)).map fun (n, rest) => ((n : Int), rest) := by
  have unsigned {c : Char} {cs : List Char} (eq : ds ++ rest = c :: cs) : c.isDigit := by
    cases ds with
    | nil => exact absurd rfl filled
    | cons d ds =>
      obtain ⟨rfl, -⟩ := List.cons.inj eq
      exact digits d List.mem_cons_self
  rw [scanYear?, dropWhile_isBlank_digits digits filled]
  split
  · exact absurd (unsigned ‹_›) (by decide)
  · exact absurd (unsigned ‹_›) (by decide)
  · rfl

theorem scanYear?_yearChars (year : Int) (stops : Stops rest) :
    scanYear? (yearChars year ++ rest) = some (year, rest) := by
  have signed (n : Nat) : scanDigits? (padded 4 n ++ rest) = some (n, rest) := by
    rw [scanDigits?_append (fun d => isDigit_of_mem_padded) (padded_ne_nil 4 n) stops,
      ofDigitChars_padded]
  have minus (cs : List Char) :
      scanYear? ('-' :: cs) = (scanDigits? cs).map fun (n, rest) => (-(n : Int), rest) := rfl
  have plus (cs : List Char) :
      scanYear? ('+' :: cs) = (scanDigits? cs).map fun (n, rest) => ((n : Int), rest) := rfl
  unfold yearChars
  split
  · rw [scanYear?_digits (fun d => isDigit_of_mem_padded) (padded_ne_nil 4 _),
      scanNumber?_padded (by decide) (by omega) (by decide)]
    exact congrArg (fun y => some (y, rest)) (show (year.toNat : Int) = year by omega)
  · split
    · rw [List.cons_append, minus, signed]
      exact congrArg (fun y => some (y, rest)) (show -(year.natAbs : Int) = year by omega)
    · rw [List.cons_append, plus, signed]
      exact congrArg (fun y => some (y, rest)) (show (year.natAbs : Int) = year by omega)

theorem Proper.two_digits {d : Date} (h : d.Proper) : d.month < 100 ∧ d.day < 100 := by
  have length := (daysInMonth_bounds d.year d.month).2
  have month_le := h.month_le
  have day_le := h.day_le
  omega

theorem ofChars?_chars {d : Date} (valid : d.isValid) : ofChars? d.chars = some d := by
  obtain ⟨month, day⟩ := (isValid_iff.1 valid).1.two_digits
  have hyphen (cs : List Char) : Stops ('-' :: cs) := stops_cons (by decide)
  have months := (Part.ofNat d.month month).scan_append (hyphen (padded 2 d.day))
  have days := (Part.ofNat d.day day).scan_append stops_nil
  rw [List.append_nil] at days
  simp only [Part.chars_ofNat, Part.value_ofNat] at months days
  simp [ofChars?, chars, scanYear?_yearChars d.year (hyphen _), months, days, valid]

theorem isValid_of_ofChars? {cs : List Char} {d : Date} (h : ofChars? cs = some d) : d.isValid := by
  simp only [ofChars?, Option.bind_eq_bind, Option.bind_eq_some_iff,
    Option.ite_none_right_eq_some, Option.some.injEq] at h
  obtain ⟨_, -, _, -, _, -, _, -, _, -, valid, rfl⟩ := h
  exact (Bool.and_eq_true_iff.1 valid).2

end Date

/-! ## Instants -/

namespace Instant

theorem ofChars?_written {d : Date} (valid : d.isValid) (early : 0 ≤ d.year) (late : d.year ≤ 9999)
    {seconds millis : Nat} (within : seconds < 86400) (part : millis < 1000) :
    ofChars? (d.chars ++ 'T' ::
        (Clock.chars ⟨seconds, millis * 1000000⟩ ++ ['+', '0', '0', ':', '0', '0'])) =
      some (d.toDays * millisPerDay + seconds * 1000 + millis) := by
  obtain ⟨month, day⟩ := (Date.isValid_iff.1 valid).1.two_digits
  have short : millis * 1000000 < Clock.nanosPerSecond := by
    unfold Clock.nanosPerSecond
    omega
  have two {n : Nat} (lt : n < 100) (rest : List Char) :
      scanNumber? 2 2 (padded 2 n ++ rest) = some (n, rest) :=
    scanNumber?_padded (by decide) lt (by decide)
  have four (rest : List Char) :
      scanNumber? 4 4 (padded 4 d.year.toNat ++ rest) = some (d.year.toNat, rest) :=
    scanNumber?_padded (by decide) (by omega) (by decide)
  have zone : Stops ['+', '0', '0', ':', '0', '0'] := stops_cons (by decide)
  have fraction := scanFraction?_fractionChars short zone (by decide)
  have year : Date.yearChars d.year = padded 4 d.year.toNat := if_pos ⟨early, late⟩
  have same : (d.year.toNat : Int) = d.year := Int.toNat_of_nonneg early
  simp only [Date.chars, Clock.chars, year, Nat.div_eq_of_lt short, Nat.mod_eq_of_lt short,
    Nat.add_zero, List.append_assoc, List.cons_append]
  refine Option.bind_eq_some_iff.2 ⟨_, four _, ?_⟩
  refine Option.bind_eq_some_iff.2 ⟨_, scanChar?_cons _ _, ?_⟩
  refine Option.bind_eq_some_iff.2 ⟨_, two month _, ?_⟩
  refine Option.bind_eq_some_iff.2 ⟨_, scanChar?_cons _ _, ?_⟩
  refine Option.bind_eq_some_iff.2 ⟨_, two day _, ?_⟩
  refine Option.bind_eq_some_iff.2 ⟨_, rfl, ?_⟩
  refine Option.bind_eq_some_iff.2 ⟨_, two (by omega) _, ?_⟩
  refine Option.bind_eq_some_iff.2 ⟨_, scanChar?_cons _ _, ?_⟩
  refine Option.bind_eq_some_iff.2 ⟨_, two (by omega) _, ?_⟩
  refine Option.bind_eq_some_iff.2 ⟨_, scanChar?_cons _ _, ?_⟩
  refine Option.bind_eq_some_iff.2 ⟨_, two (by omega) _, ?_⟩
  refine Option.bind_eq_some_iff.2 ⟨_, fraction, ?_⟩
  refine Option.bind_eq_some_iff.2 ⟨(0, []), rfl, ?_⟩
  have date : (⟨d.year.toNat, d.month, d.day⟩ : Date) = d := by rw [same]
  refine Option.bind_eq_some_iff.2 ⟨_, Clock.of?_split within, ?_⟩
  dsimp only
  rw [date, valid]
  refine (if_pos rfl).trans (congrArg some ?_)
  omega

/-- The instant is on a day of the calendar whose year is written with a sign, as every year outside
0 … 9999 is. -/
def HasSignedYear (millis : Int) : Prop :=
  ∃ d : Date, d.isValid ∧ d.IsNth (millis / millisPerDay) ∧ ¬ (0 ≤ d.year ∧ d.year ≤ 9999)

theorem hasSignedYear_of_ofDays? {millis : Int} {d : Date}
    (found : Date.ofDays? (millis / millisPerDay) = some d) :
    HasSignedYear millis ↔ ¬ (0 ≤ d.year ∧ d.year ≤ 9999) := by
  constructor
  · rintro ⟨e, valid, nth, signed⟩
    obtain rfl : d = e :=
      Option.some.inj (found.symm.trans (Date.ofDays?_eq_some_iff.2 ⟨valid, nth⟩))
    exact signed
  · intro signed
    obtain ⟨valid, nth⟩ := Date.ofDays?_eq_some_iff.1 found
    exact ⟨d, valid, nth, signed⟩

/-- The text of an instant is read as the instant if its year has no sign. -/
theorem ofChars?_of_chars? {millis : Int} {cs : List Char} (h : chars? millis = some cs)
    (unsigned : ¬ HasSignedYear millis) : ofChars? cs = some millis := by
  obtain ⟨d, found, rfl⟩ := Option.map_eq_some_iff.1 h
  obtain ⟨valid, nth⟩ := Date.ofDays?_eq_some_iff.1 found
  have counted := (Date.isNth_iff (Date.isValid_iff.1 valid).1).1 nth
  obtain ⟨early, late⟩ := not_not.1 (mt (hasSignedYear_of_ofDays? found).2 unsigned)
  rw [ofChars?_written valid early late (by unfold millisPerDay; omega) (by omega), counted]
  unfold millisPerDay
  congr 1
  omega

/-- No text of an instant is read in which the year has a sign. -/
theorem ofChars?_of_signed {millis : Int} {cs : List Char} (h : chars? millis = some cs)
    (signed : HasSignedYear millis) : ofChars? cs = none := by
  obtain ⟨d, found, rfl⟩ := Option.map_eq_some_iff.1 h
  have unread (sign : Char) (cs : List Char) (other : ¬ sign.isDigit) :
      ofChars? (sign :: cs) = none := by
    rw [ofChars?, scanNumber?_eq_none (by decide) (stops_cons other)]
    rfl
  rw [Date.chars, Date.yearChars, if_neg ((hasSignedYear_of_ofDays? found).1 signed)]
  split
  · exact unread _ _ (by decide)
  · exact unread _ _ (by decide)

theorem hasSignedYear_iff {millis : Int} : HasSignedYear millis ↔
    -8334601228800000 ≤ millis ∧ millis < -62167219200000 ∨
      253402300800000 ≤ millis ∧ millis < 8210266876800000 := by
  have four : Date.firstDay 0 = -719528 ∧ Date.firstDay 10000 = 2932897 := by decide
  have all : Date.firstDay Date.leastYear = -96465292 ∧
      Date.firstDay (Date.greatestYear + 1) = 95026237 := by decide
  have years {d : Date} (valid : d.isValid) (nth : d.IsNth (millis / millisPerDay)) :
      (0 ≤ d.year ∧ d.year ≤ 9999) ↔ Date.firstDay 0 ≤ millis / millisPerDay ∧
        millis / millisPerDay < Date.firstDay 10000 := by
    have proper := (Date.isValid_iff.1 valid).1
    have early := Date.le_year_iff proper 0
    have late := Date.le_year_iff proper 10000
    rw [(Date.isNth_iff proper).1 nth] at early late
    omega
  have days : HasSignedYear millis ↔ Date.InCalendar (millis / millisPerDay) ∧
      ¬ (Date.firstDay 0 ≤ millis / millisPerDay ∧
        millis / millisPerDay < Date.firstDay 10000) := by
    constructor
    · rintro ⟨d, valid, nth, signed⟩
      exact ⟨⟨d, valid, nth⟩, mt (years valid nth).2 signed⟩
    · rintro ⟨⟨d, valid, nth⟩, signed⟩
      exact ⟨d, valid, nth, mt (years valid nth).1 signed⟩
  rw [days, Date.inCalendar_iff, four.1, four.2, all.1, all.2, millisPerDay]
  omega

end Instant

end CqlClient
