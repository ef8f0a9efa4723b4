import CqlClient.Calendar.Date
import Mathlib.Algebra.Order.Ring.Int
import Mathlib.Logic.Function.Iterate
import Mathlib.Tactic.IntervalCases

/-!
# Counting days

`Date.next` says which day comes after a day, which is all there is to a calendar. Counts of days
from 1970-01-01 agree with it, by `Date.isNth_iff`, and the day of a count is found if the calendar
has it, by `Date.ofDays?_eq_some_iff`.
-/

namespace CqlClient.Date

/-! ## The calendar -/

/-- A day of a month, in any year. -/
structure Proper (d : Date) : Prop where
  month_pos : 1 ≤ d.month
  month_le : d.month ≤ 12
  day_pos : 1 ≤ d.day
  day_le : d.day ≤ daysInMonth d.year d.month

def next (d : Date) : Date :=
  if d.day < daysInMonth d.year d.month then { d with day := d.day + 1 }
  else if d.month < 12 then ⟨d.year, d.month + 1, 1⟩
  else ⟨d.year + 1, 1, 1⟩

def epoch : Date := ⟨1970, 1, 1⟩

/-- The day is `n` days after 1970-01-01, or `-n` days before it. -/
def IsNth (d : Date) (n : Int) : Prop := next^[n.toNat] epoch = next^[(-n).toNat] d

theorem isValid_iff {d : Date} :
    d.isValid ↔ d.Proper ∧ leastYear ≤ d.year ∧ d.year ≤ greatestYear := by
  simp only [isValid, Bool.and_eq_true, decide_eq_true_eq]
  constructor
  · rintro ⟨⟨⟨⟨⟨least, greatest⟩, month_pos⟩, month_le⟩, day_pos⟩, day_le⟩
    exact ⟨⟨month_pos, month_le, day_pos, day_le⟩, least, greatest⟩
  · rintro ⟨⟨month_pos, month_le, day_pos, day_le⟩, least, greatest⟩
    exact ⟨⟨⟨⟨⟨least, greatest⟩, month_pos⟩, month_le⟩, day_pos⟩, day_le⟩

theorem isLeapYear_iff {year : Int} :
    isLeapYear year ↔ year % 4 = 0 ∧ (year % 100 ≠ 0 ∨ year % 400 = 0) := by
  simp [isLeapYear]

theorem daysInMonth_bounds (year : Int) (month : Nat) :
    1 ≤ daysInMonth year month ∧ daysInMonth year month ≤ 31 := by
  unfold daysInMonth
  split <;> split <;> omega

theorem Proper.next {d : Date} (h : d.Proper) : d.next.Proper := by
  obtain ⟨month_pos, month_le, day_pos, day_le⟩ := h
  have filled (year : Int) (month : Nat) := (daysInMonth_bounds year month).1
  unfold Date.next
  split
  · exact ⟨month_pos, month_le, Nat.le_add_left 1 _, ‹_›⟩
  · split
    · exact ⟨Nat.le_add_left 1 _, ‹_›, Nat.le_refl 1, filled _ _⟩
    · exact ⟨Nat.le_refl 1, Nat.le_add_left 1 11, Nat.le_refl 1, filled _ _⟩

theorem Proper.iterate_next {d : Date} (h : d.Proper) (n : Nat) : (Date.next^[n] d).Proper := by
  induction n with
  | zero => exact h
  | succ n ih =>
    rw [Function.iterate_succ_apply']
    exact ih.next

theorem proper_epoch : epoch.Proper := ⟨by decide, by decide, by decide, by decide⟩

/-! ## Counts -/

/-- Days from the first of March of year 0 to that of a year. -/
def marchFirst (year : Int) : Int := 365 * year + year / 4 - year / 100 + year / 400

/-- Days from the first of March to the first of the month that comes so many months later. -/
def monthStart (months : Nat) : Nat := (153 * months + 2) / 5

theorem marchFirst_succ (year : Int) :
    marchFirst (year + 1) = marchFirst year + if isLeapYear (year + 1) then 366 else 365 := by
  simp only [marchFirst, isLeapYear_iff]
  split <;> omega

theorem toDays_eq {d : Date} (pos : 1 ≤ d.day) :
    d.toDays = marchFirst (if d.month ≤ 2 then d.year - 1 else d.year) +
      (monthStart ((d.month + 9) % 12) + (d.day - 1) : Nat) - 719468 := by
  unfold toDays marchFirst monthStart
  dsimp only
  omega

theorem toDays_day (year : Int) (month : Nat) {day : Nat} (pos : 1 ≤ day) :
    toDays ⟨year, month, day⟩ = toDays ⟨year, month, 1⟩ + (day - 1 : Nat) := by
  rw [toDays_eq pos, toDays_eq (Nat.le_refl 1)]
  dsimp only
  omega

theorem toDays_month {year : Int} {month : Nat} (pos : 1 ≤ month) (lt : month < 12) :
    toDays ⟨year, month + 1, 1⟩ = toDays ⟨year, month, 1⟩ + daysInMonth year month := by
  have turn := marchFirst_succ (year - 1)
  rw [Int.sub_add_cancel] at turn
  rw [toDays_eq (Nat.le_refl 1), toDays_eq (Nat.le_refl 1)]
  unfold daysInMonth monthStart
  interval_cases month
  case «2» => by_cases leap : isLeapYear year <;> simp [leap] at turn ⊢ <;> omega
  all_goals
    simp
    omega

theorem toDays_year (year : Int) : toDays ⟨year + 1, 1, 1⟩ = toDays ⟨year, 12, 1⟩ + 31 := by
  rw [toDays_eq (Nat.le_refl 1), toDays_eq (Nat.le_refl 1)]
  simp [monthStart]
  omega

theorem toDays_next {d : Date} (h : d.Proper) : d.next.toDays = d.toDays + 1 := by
  obtain ⟨month_pos, month_le, day_pos, day_le⟩ := h
  obtain ⟨year, month, day⟩ := d
  dsimp only at *
  rw [toDays_day _ _ day_pos]
  unfold next
  dsimp only
  split
  · rw [toDays_day _ _ (Nat.le_add_left 1 day)]
    omega
  · have last : day = daysInMonth year month := by omega
    split
    · rw [toDays_month month_pos ‹_›]
      omega
    · obtain rfl : month = 12 := by omega
      have length : daysInMonth year 12 = 31 := rfl
      rw [toDays_year]
      omega

theorem toDays_iterate_next {d : Date} (h : d.Proper) (n : Nat) :
    (next^[n] d).toDays = d.toDays + n := by
  induction n with
  | zero => exact (Int.add_zero _).symm
  | succ n ih =>
    rw [Function.iterate_succ_apply', toDays_next (h.iterate_next n), ih]
    omega

/-! ## Order -/

def firstDay (year : Int) : Int := toDays ⟨year, 1, 1⟩

theorem firstDay_mono {y z : Int} (le : y ≤ z) : firstDay y ≤ firstDay z := by
  unfold firstDay
  rw [toDays_eq (Nat.le_refl 1), toDays_eq (Nat.le_refl 1)]
  simp [monthStart, marchFirst]
  omega

theorem toDays_month_le (year : Int) {m n : Nat} (pos : 1 ≤ m) (lt : m < n) (le : n ≤ 12) :
    toDays ⟨year, m, 1⟩ + daysInMonth year m ≤ toDays ⟨year, n, 1⟩ := by
  induction n, lt using Nat.le_induction with
  | base => exact (toDays_month pos le).ge
  | succ n lt ih =>
    have before := ih (Nat.le_of_succ_le le)
    rw [toDays_month (by omega) le]
    omega

theorem firstDay_le_toDays {d : Date} (h : d.Proper) :
    firstDay d.year ≤ d.toDays ∧ d.toDays < firstDay (d.year + 1) := by
  obtain ⟨month_pos, month_le, day_pos, day_le⟩ := h
  obtain ⟨year, month, day⟩ := d
  dsimp only at *
  rw [toDays_day _ _ day_pos, firstDay, firstDay, toDays_year]
  constructor
  · rcases Nat.eq_or_lt_of_le month_pos with rfl | later
    · omega
    · have := toDays_month_le year (Nat.le_refl 1) later month_le
      omega
  · rcases Nat.eq_or_lt_of_le month_le with rfl | earlier
    · have length : daysInMonth year 12 = 31 := rfl
      omega
    · have := toDays_month_le year month_pos earlier (Nat.le_refl 12)
      omega

theorem le_year_iff {d : Date} (h : d.Proper) (year : Int) :
    year ≤ d.year ↔ firstDay year ≤ d.toDays := by
  obtain ⟨begun, ends⟩ := firstDay_le_toDays h
  constructor
  · exact fun le => (firstDay_mono le).trans begun
  · intro le
    by_contra before
    have := firstDay_mono (show d.year + 1 ≤ year by omega)
    omega

theorem toDays_lt_of_year_lt {d e : Date} (hd : d.Proper) (he : e.Proper) (lt : d.year < e.year) :
    d.toDays < e.toDays :=
  (firstDay_le_toDays hd).2.trans_le ((le_year_iff he _).1 lt)

theorem toDays_lt_of_month_lt {year : Int} {m n day day' : Nat} (h : Proper ⟨year, m, day⟩)
    (h' : Proper ⟨year, n, day'⟩) (lt : m < n) :
    toDays ⟨year, m, day⟩ < toDays ⟨year, n, day'⟩ := by
  have months := toDays_month_le year h.month_pos lt h'.month_le
  have day_pos : 1 ≤ day := h.day_pos
  have day_le : day ≤ daysInMonth year m := h.day_le
  have day_pos' : 1 ≤ day' := h'.day_pos
  rw [toDays_day _ _ day_pos, toDays_day _ _ day_pos']
  dsimp only at months
  omega

theorem eq_of_toDays_eq {d e : Date} (hd : d.Proper) (he : e.Proper) (same : d.toDays = e.toDays) :
    d = e := by
  obtain ⟨year, month, day⟩ := d
  obtain ⟨year', month', day'⟩ := e
  rcases lt_trichotomy year year' with lt | rfl | lt
  · exact absurd same (toDays_lt_of_year_lt hd he lt).ne
  · rcases lt_trichotomy month month' with lt | rfl | lt
    · exact absurd same (toDays_lt_of_month_lt hd he lt).ne
    · have pos : 1 ≤ day := hd.day_pos
      have pos' : 1 ≤ day' := he.day_pos
      rw [toDays_day _ _ pos, toDays_day _ _ pos'] at same
      rw [show day = day' by omega]
    · exact absurd same (toDays_lt_of_month_lt he hd lt).ne'
  · exact absurd same (toDays_lt_of_year_lt he hd lt).ne'

theorem isNth_iff {d : Date} (h : d.Proper) {n : Int} : d.IsNth n ↔ d.toDays = n := by
  have zero : epoch.toDays = 0 := by decide
  have counts : (next^[n.toNat] epoch).toDays = (next^[(-n).toNat] d).toDays ↔ d.toDays = n := by
    rw [toDays_iterate_next proper_epoch, toDays_iterate_next h, zero]
    omega
  rw [← counts]
  exact ⟨congrArg toDays, eq_of_toDays_eq (proper_epoch.iterate_next _) (h.iterate_next _)⟩

/-! ## The day of a count -/

/-- The day that comes so many days after the first of March of a year. -/
def ofMarch (year : Int) (dayOfYear : Nat) : Date :=
  let monthFromMarch := (5 * dayOfYear + 2) / 153
  let month := if monthFromMarch < 10 then monthFromMarch + 3 else monthFromMarch - 9
  { year := if month ≤ 2 then year + 1 else year, month
    day := dayOfYear - monthStart monthFromMarch + 1 }

/-- The year in which a day of an era of 400 years lies. -/
def yearOfEra (day : Nat) : Nat := (day - day / 1460 + day / 36524 - day / 146096) / 365

theorem ofDays_eq (n : Int) :
    let era := (n + 719468) / 146097
    let day := ((n + 719468) % 146097).toNat
    let year := yearOfEra day
    ofDays n = ofMarch (era * 400 + year) (day - (365 * year + year / 4 - year / 100)) :=
  rfl

theorem yearOfEra_mono {m n : Nat} (le : m ≤ n) (lt : n < 146097) : yearOfEra m ≤ yearOfEra n := by
  apply Nat.div_le_div_right
  have centuries : m / 36524 ≤ n / 36524 := Nat.div_le_div_right le
  have days : m - m / 1460 ≤ n - n / 1460 := by omega
  have last : n / 146096 = 0 ∨ n = 146096 := by omega
  omega

/-- The quotients are right on the first and on the last day of each year of an era, and as they
are monotone they are right in between. -/
theorem yearOfEra_ends : ∀ y : Nat, y < 400 →
    yearOfEra (marchFirst y).toNat = y ∧ yearOfEra ((marchFirst (y + 1)).toNat - 1) = y := by
  decide +kernel

theorem exists_year {n y : Nat} (lt : n < marchFirst y) :
    ∃ z < y, marchFirst z ≤ n ∧ n < marchFirst (z + 1) := by
  induction y with
  | zero => exact absurd lt (by simp [marchFirst])
  | succ y ih =>
    rcases lt_or_ge (n : Int) (marchFirst y) with before | after
    · obtain ⟨z, below, within⟩ := ih before
      exact ⟨z, Nat.lt_succ_of_lt below, within⟩
    · exact ⟨y, Nat.lt_succ_self y, after, lt⟩

theorem yearOfEra_spec {n : Nat} (lt : n < 146097) :
    yearOfEra n < 400 ∧ marchFirst (yearOfEra n) ≤ n ∧ n < marchFirst (yearOfEra n + 1) := by
  have era : marchFirst (400 : Nat) = 146097 := by decide
  obtain ⟨y, below, after, before⟩ := exists_year (n := n) (y := 400) (by omega)
  have within : marchFirst (y + 1) ≤ 146097 := by
    unfold marchFirst
    omega
  obtain ⟨first, last⟩ := yearOfEra_ends y below
  have low : yearOfEra (marchFirst y).toNat ≤ yearOfEra n := yearOfEra_mono (by omega) lt
  have high : yearOfEra n ≤ yearOfEra ((marchFirst (y + 1)).toNat - 1) :=
    yearOfEra_mono (by omega) (by omega)
  rw [show yearOfEra n = y by omega]
  exact ⟨below, after, before⟩

/-- A month goes on to the start of the next one, but for February, which ends with its year. -/
theorem monthStart_succ (year : Int) {k : Nat} (early : k < 11) :
    monthStart (k + 1) = monthStart k + daysInMonth year (if k < 10 then k + 3 else k - 9) := by
  interval_cases k <;> rfl

theorem ofMarch_spec (year : Int) {n : Nat} (lt : marchFirst year + n < marchFirst (year + 1)) :
    (ofMarch year n).Proper ∧ (ofMarch year n).toDays = marchFirst year + n - 719468 := by
  rw [marchFirst_succ] at lt
  have short : n < 366 := by split at lt <;> omega
  unfold ofMarch
  generalize month : (5 * n + 2) / 153 = k
  have small : k < 12 := by omega
  have begun : monthStart k ≤ n ∧ n < monthStart (k + 1) := by
    unfold monthStart
    omega
  dsimp only
  constructor
  · refine ⟨?_, ?_, Nat.le_add_left 1 _, ?_⟩ <;> dsimp only
    · split <;> omega
    · split <;> omega
    · by_cases early : k < 11
      · rw [monthStart_succ _ early] at begun
        exact Nat.succ_le_of_lt (Nat.sub_lt_left_of_lt_add begun.1 begun.2)
      · obtain rfl : k = 11 := by omega
        have first : monthStart 11 = 337 := rfl
        have length : daysInMonth (year + 1) 2 = if isLeapYear (year + 1) then 29 else 28 := rfl
        by_cases leap : isLeapYear (year + 1) <;> simp [leap] at lt length ⊢ <;> omega
  · rw [toDays_eq (Nat.le_add_left 1 _)]
    dsimp only
    by_cases early : k < 10
    · simp [early, show ¬ k + 3 ≤ 2 by omega, show (k + 3 + 9) % 12 = k by omega]
      omega
    · simp [early, show k - 9 ≤ 2 by omega, show (k - 9 + 9) % 12 = k by omega]
      omega

theorem ofDays_spec (n : Int) : (ofDays n).Proper ∧ (ofDays n).toDays = n := by
  rw [ofDays_eq]
  generalize era : (n + 719468) / 146097 = q
  generalize rest : ((n + 719468) % 146097).toNat = day
  obtain ⟨below, after, before⟩ := yearOfEra_spec (show day < 146097 by omega)
  generalize yearOfEra day = y at *
  have shift (z : Int) : marchFirst (q * 400 + z) = q * 146097 + marchFirst z := by
    unfold marchFirst
    omega
  have start : marchFirst y = (365 * y + y / 4 - y / 100 : Nat) := by
    unfold marchFirst
    omega
  obtain ⟨proper, counted⟩ := ofMarch_spec (q * 400 + y)
    (n := day - (365 * y + y / 4 - y / 100)) (by rw [Int.add_assoc, shift, shift]; omega)
  refine ⟨proper, ?_⟩
  rw [counted, shift]
  omega

theorem ofDays?_eq_some_iff {n : Int} {d : Date} :
    ofDays? n = some d ↔ d.isValid ∧ d.IsNth n := by
  obtain ⟨proper, counted⟩ := ofDays_spec n
  rw [isValid_iff, ofDays?, Option.ite_none_right_eq_some, Option.some.injEq]
  constructor
  · rintro ⟨years, rfl⟩
    exact ⟨⟨proper, years⟩, (isNth_iff proper).2 counted⟩
  · rintro ⟨⟨proper', years⟩, nth⟩
    have counted' := (isNth_iff proper').1 nth
    obtain rfl := eq_of_toDays_eq proper proper' (counted.trans counted'.symm)
    exact ⟨years, rfl⟩

/-- The calendar has a day that is `n` days from 1970-01-01. -/
def InCalendar (n : Int) : Prop := ∃ d : Date, d.isValid ∧ d.IsNth n

theorem ofDays?_eq_none_iff {n : Int} : ofDays? n = none ↔ ¬ InCalendar n := by
  simp only [InCalendar, ← ofDays?_eq_some_iff]
  exact Option.eq_none_iff_forall_not_mem.trans not_exists.symm

theorem inCalendar_iff {n : Int} :
    InCalendar n ↔ firstDay leastYear ≤ n ∧ n < firstDay (greatestYear + 1) := by
  have years {d : Date} (h : d.Proper) (counted : d.toDays = n) :
      (leastYear ≤ d.year ∧ d.year ≤ greatestYear) ↔
        firstDay leastYear ≤ n ∧ n < firstDay (greatestYear + 1) := by
    have least := le_year_iff h leastYear
    have greatest := le_year_iff h (greatestYear + 1)
    rw [counted] at least greatest
    omega
  constructor
  · rintro ⟨d, valid, nth⟩
    obtain ⟨proper, found⟩ := isValid_iff.1 valid
    exact (years proper ((isNth_iff proper).1 nth)).1 found
  · intro within
    obtain ⟨proper, counted⟩ := ofDays_spec n
    exact ⟨ofDays n, isValid_iff.2 ⟨proper, (years proper counted).2 within⟩,
      (isNth_iff proper).2 counted⟩

end CqlClient.Date
