import CqlClient.Calendar.Clock
import CqlClient.Proofs.Calendar.Range
import CqlClient.Proofs.Calendar.Scan
import Mathlib.Data.Rat.Floor
import Mathlib.Tactic.FieldSimp

/-!
# Times of day as texts

A text of a time spells a rational number of seconds. By `ClockText.ofChars?_chars` and
`ClockText.exists_of_ofChars?` just such texts are read, as the whole nanoseconds of their number.
By `ClockText.exists_reading` what is written of a number of nanoseconds within a day is a clock
reading of exactly that number.
-/

namespace CqlClient

namespace Calendar

variable {cs ds rest : List Char} {n : Nat}

/-! ## Fractions -/

/-- A point with digits after it, or nothing if there are none. -/
def point (ds : List Char) : List Char := if ds = [] then [] else '.' :: ds

/-- The nanoseconds of a fraction. Digits beyond the ninth are passed over. -/
def fractionNanos (ds : List Char) : Nat :=
  Nat.ofDigitChars 10 (ds.take 9) 0 * 10 ^ (9 - (ds.take 9).length)

theorem stops_point (ds : List Char) : Stops (point ds) := by
  unfold point
  split
  · exact stops_nil
  · exact stops_cons (by decide)

theorem scanFraction?_append (digits : ∀ d ∈ ds, d.isDigit) (stops : Stops rest)
    (other : '.' ∉ rest.head?) :
    scanFraction? (point ds ++ rest) = some (fractionNanos ds, rest) := by
  unfold point
  split
  · rename_i empty
    rw [List.nil_append, empty, scanFraction?]
    · rfl
    · rintro cs rfl
      exact other rfl
  · rename_i filled
    have taken : ((ds ++ rest).take 9).takeWhile Char.isDigit = ds.take 9 := by
      rw [← List.take_takeWhile, List.takeWhile_append_of_pos digits, takeWhile_of_stops stops,
        List.append_nil]
    have kept : ds.take 9 ≠ [] := by simpa using filled
    simp only [List.cons_append, scanFraction?, taken]
    rw [if_neg kept, List.dropWhile_append_of_pos digits, dropWhile_of_stops stops]
    rfl

theorem exists_of_scanFraction? (h : scanFraction? cs = some (n, rest)) :
    ∃ ds, cs = point ds ++ rest ∧ (∀ d ∈ ds, d.isDigit) ∧ n = fractionNanos ds := by
  unfold scanFraction? at h
  split at h
  · rename_i cs
    dsimp only at h
    obtain ⟨filled, h⟩ := Option.ite_none_left_eq_some.1 h
    obtain ⟨rfl, rfl⟩ := Prod.mk.inj (Option.some.inj h)
    rw [← List.take_takeWhile] at filled ⊢
    have filled : cs.takeWhile Char.isDigit ≠ [] := fun empty => filled (by rw [empty]; rfl)
    refine ⟨cs.takeWhile Char.isDigit, ?_, List.all_eq_true.1 List.all_takeWhile, rfl⟩
    rw [point, if_neg filled, List.cons_append, List.takeWhile_append_dropWhile]
  · obtain ⟨rfl, rfl⟩ := Prod.mk.inj (Option.some.inj h)
    exact ⟨[], rfl, List.forall_mem_nil _, rfl⟩

theorem fractionNanos_lt (digits : ∀ d ∈ ds, d.isDigit) : fractionNanos ds < Clock.nanosPerSecond :=
  nanos_lt (scanFraction?_append digits stops_nil nofun)

theorem fractionNanos_eq (digits : ∀ d ∈ ds, d.isDigit) :
    fractionNanos ds = Nat.ofDigitChars 10 ds 0 * 10 ^ 9 / 10 ^ ds.length := by
  rcases Nat.le_total ds.length 9 with short | long
  · have whole : 10 ^ 9 = 10 ^ ds.length * 10 ^ (9 - ds.length) := by
      rw [← Nat.pow_add, Nat.add_sub_cancel' short]
    rw [fractionNanos, List.take_of_length_le short, whole, Nat.mul_left_comm,
      Nat.mul_div_cancel_left _ (Nat.pow_pos (by decide))]
  · have split : Nat.ofDigitChars 10 ds 0 = 10 ^ (ds.drop 9).length *
        Nat.ofDigitChars 10 (ds.take 9) 0 + Nat.ofDigitChars 10 (ds.drop 9) 0 := by
      conv_lhs => rw [← List.take_append_drop 9 ds, Nat.ofDigitChars_append,
        Nat.ofDigitChars_eq_ofDigitChars_zero]
    have small : Nat.ofDigitChars 10 (ds.drop 9) 0 < (0 + 1) * 10 ^ (ds.drop 9).length :=
      ofDigitChars_lt (fun d among => digits d (List.mem_of_mem_drop among)) 0
    have width : 10 ^ ds.length = 10 ^ (ds.drop 9).length * 10 ^ 9 := by
      rw [← Nat.pow_add, List.length_drop, Nat.sub_add_cancel long]
    have kept : (ds.take 9).length = 9 := List.length_take_of_le long
    rw [fractionNanos, kept, Nat.sub_self, Nat.pow_zero, Nat.mul_one, width,
      Nat.mul_div_mul_right _ _ (by decide), split, Nat.mul_add_div (Nat.pow_pos (by decide)),
      Nat.div_eq_of_lt (by omega), Nat.add_zero]

theorem floor_fraction (digits : ∀ d ∈ ds, d.isDigit) :
    ⌊(Nat.ofDigitChars 10 ds 0 / 10 ^ ds.length * 10 ^ 9 : ℚ)⌋ = fractionNanos ds := by
  have whole : (Nat.ofDigitChars 10 ds 0 / 10 ^ ds.length * 10 ^ 9 : ℚ) =
      (Nat.ofDigitChars 10 ds 0 * 10 ^ 9 : Nat) / (10 ^ ds.length : Nat) := by
    push_cast
    ring
  rw [whole, Rat.floor_natCast_div_natCast, fractionNanos_eq digits]
  rfl

/-- What is written of nanoseconds is a fraction that stands for them. -/
theorem exists_fraction (lt : n < Clock.nanosPerSecond) :
    ∃ ds, Clock.fractionChars n = point ds ∧ (∀ d ∈ ds, d.isDigit) ∧
      (Nat.ofDigitChars 10 ds 0 / 10 ^ ds.length * 10 ^ 9 : ℚ) = n := by
  have places (shift : Nat) {width m : Nat} (pos : 0 < width) (fits : m < 10 ^ width)
      (same : n = m * 10 ^ shift) (nine : width + shift = 9) :
      ∃ ds, '.' :: padded width m = point ds ∧ (∀ d ∈ ds, d.isDigit) ∧
        (Nat.ofDigitChars 10 ds 0 / 10 ^ ds.length * 10 ^ 9 : ℚ) = n := by
    refine ⟨padded width m, (if_neg (padded_ne_nil width m)).symm,
      fun d => isDigit_of_mem_padded, ?_⟩
    rw [ofDigitChars_padded, length_padded pos fits, same, ← nine, pow_add]
    push_cast
    field_simp
  unfold Clock.nanosPerSecond at lt
  unfold Clock.fractionChars
  split
  · rename_i zero
    refine ⟨[], rfl, List.forall_mem_nil _, ?_⟩
    rw [zero]
    norm_num
  · split
    · exact places 6 (by decide) (by omega) (by omega) rfl
    · split
      · exact places 3 (by decide) (by omega) (by omega) rfl
      · exact places 0 (by decide) (by omega) (by omega) rfl

theorem scanFraction?_fractionChars (lt : n < Clock.nanosPerSecond) (stops : Stops rest)
    (other : '.' ∉ rest.head?) :
    scanFraction? (Clock.fractionChars n ++ rest) = some (n, rest) := by
  obtain ⟨ds, written, digits, denotes⟩ := exists_fraction lt
  have same : (fractionNanos ds : Int) = n := by
    rw [← floor_fraction digits, denotes, Int.floor_natCast]
  rw [written, scanFraction?_append digits stops other, Int.ofNat_inj.1 same]

end Calendar

/-- The hour, the minute and the second of a time outside a leap second. -/
theorem Clock.of?_split {seconds nanos : Nat} (lt : seconds < 86400) :
    of? (seconds / 3600) (seconds / 60 % 60) (seconds % 60) nanos = some ⟨seconds, nanos⟩ := by
  have whole : seconds / 3600 * 3600 + seconds / 60 % 60 * 60 + seconds % 60 = seconds := by omega
  rw [of?, if_pos (by omega), if_neg (by omega), whole]

theorem Clock.ofSeconds?_of_lt {seconds nanos : Nat} (lt : nanos < nanosPerSecond) :
    ofSeconds? seconds nanos = if seconds < 86400 then some ⟨seconds, nanos⟩ else none := by
  unfold ofSeconds?
  congr 1
  exact propext ⟨fun h => h.1, fun h => ⟨h, by omega, .inl lt⟩⟩

theorem Clock.ofSeconds?_of_two_le {seconds nanos : Nat} (le : 2 * nanosPerSecond ≤ nanos) :
    ofSeconds? seconds nanos = none :=
  if_neg fun h => absurd h.2.1 (Nat.not_lt.2 le)

open Calendar

/-! ## Clock texts -/

/-- Hours, minutes and seconds with colons between them, and perhaps a point with digits. -/
structure ClockText where
  hour : Part
  minute : Part
  second : Part
  fraction : List Char
  isDigit : ∀ d ∈ fraction, d.isDigit

namespace ClockText

def chars (t : ClockText) : List Char :=
  t.hour.chars ++ ':' :: (t.minute.chars ++ ':' :: (t.second.chars ++ point t.fraction))

def wholeSeconds (t : ClockText) : Nat :=
  t.hour.value * 3600 + t.minute.value * 60 + t.second.value

def value (t : ClockText) : ℚ :=
  t.wholeSeconds + Nat.ofDigitChars 10 t.fraction 0 / 10 ^ t.fraction.length

/-- A time of day; second 60 is a leap second. -/
structure InRange (t : ClockText) : Prop where
  hour_lt : t.hour.value < 24
  minute_lt : t.minute.value < 60
  second_le : t.second.value ≤ 60

/-- A time of day outside a leap second, with two digits for the hour, the minute and the second. -/
structure IsReading (t : ClockText) : Prop where
  hour_plain : t.hour.Plain
  minute_plain : t.minute.Plain
  second_plain : t.second.Plain
  hour_lt : t.hour.value < 24
  minute_lt : t.minute.value < 60
  second_lt : t.second.value < 60

theorem IsReading.inRange {t : ClockText} (reading : t.IsReading) : t.InRange :=
  ⟨reading.hour_lt, reading.minute_lt, reading.second_lt.le⟩

theorem InRange.wholeSeconds_le {t : ClockText} (inRange : t.InRange) : t.wholeSeconds ≤ 86400 := by
  obtain ⟨hour_lt, minute_lt, second_le⟩ := inRange
  unfold wholeSeconds
  omega

theorem floor_value (t : ClockText) :
    ⌊t.value * 10 ^ 9⌋ = t.wholeSeconds * Clock.nanosPerSecond + fractionNanos t.fraction := by
  have parts : t.value * 10 ^ 9 = (t.wholeSeconds * Clock.nanosPerSecond : Nat) +
      (Nat.ofDigitChars 10 t.fraction 0 / 10 ^ t.fraction.length * 10 ^ 9 : ℚ) := by
    rw [value, Clock.nanosPerSecond]
    push_cast
    ring
  rw [parts, Int.floor_natCast_add, floor_fraction t.isDigit]
  rfl

theorem floor_bounds (t : ClockText) :
    (t.wholeSeconds * 10 ^ 9 : Int) ≤ ⌊t.value * 10 ^ 9⌋ ∧
      ⌊t.value * 10 ^ 9⌋ < (t.wholeSeconds + 1) * 10 ^ 9 := by
  have part := fractionNanos_lt t.isDigit
  rw [floor_value]
  unfold Clock.nanosPerSecond at *
  omega

theorem toNanos_of? {hour minute second nanos : Nat} {c : Clock}
    (h : Clock.of? hour minute second nanos = some c) :
    c.toNanos = (hour * 3600 + minute * 60 + second) * Clock.nanosPerSecond + nanos := by
  unfold Clock.of? at h
  split at h
  · unfold Clock.nanosPerSecond at *
    split at h
    · cases h
      simp only [Clock.toNanos, Clock.nanosPerSecond]
      omega
    · cases h
      rfl
  · cases h

theorem of?_isSome_iff {hour minute second nanos : Nat} :
    (∃ c, Clock.of? hour minute second nanos = some c) ↔ hour < 24 ∧ minute < 60 ∧ second ≤ 60 := by
  unfold Clock.of?
  split
  · split <;> simp [*]
  · simp [*]

theorem ofChars?_chars {t : ClockText} (inRange : t.InRange) :
    ∃ c, Clock.ofChars? t.chars = some c ∧ c.toNanos = ⌊t.value * 10 ^ 9⌋ := by
  obtain ⟨hour_lt, minute_lt, second_le⟩ := inRange
  obtain ⟨c, counted⟩ : ∃ c, Clock.of? t.hour.value t.minute.value t.second.value
      (fractionNanos t.fraction) = some c := of?_isSome_iff.2 ⟨hour_lt, minute_lt, second_le⟩
  have colon (cs : List Char) : Stops (':' :: cs) := stops_cons (by decide)
  have fraction := scanFraction?_append t.isDigit stops_nil nofun
  rw [List.append_nil] at fraction
  refine ⟨c, ?_, ?_⟩
  · simp [Clock.ofChars?, chars, t.hour.scan_append (colon _), t.minute.scan_append (colon _),
      t.second.scan_append (stops_point _), fraction, counted]
  · rw [toNanos_of? counted, floor_value]
    push_cast
    rfl

theorem exists_of_ofChars? {cs : List Char} {c : Clock} (h : Clock.ofChars? cs = some c) :
    ∃ t : ClockText, t.chars = cs ∧ t.InRange ∧ c.toNanos = ⌊t.value * 10 ^ 9⌋ := by
  simp only [Clock.ofChars?, Option.bind_eq_bind, Option.bind_eq_some_iff,
    Option.ite_none_right_eq_some, Prod.exists, scanChar?_eq_some_iff] at h
  obtain ⟨hour, _, hours, _, rfl, minute, _, minutes, _, rfl, second, _, seconds, nanos, rest,
    fraction, ends, counted⟩ := h
  obtain ⟨p, rfl, rfl⟩ := Part.exists_of_scan hours
  obtain ⟨q, rfl, rfl⟩ := Part.exists_of_scan minutes
  obtain ⟨r, rfl, rfl⟩ := Part.exists_of_scan seconds
  obtain ⟨ds, rfl, digits, rfl⟩ := exists_of_scanFraction? fraction
  obtain rfl := List.isEmpty_iff.1 ends
  obtain ⟨hour_lt, minute_lt, second_le⟩ := of?_isSome_iff.1 ⟨c, counted⟩
  refine ⟨⟨p, q, r, ds, digits⟩, ?_, ⟨hour_lt, minute_lt, second_le⟩, ?_⟩
  · simp [chars]
  · rw [toNanos_of? counted, floor_value]
    push_cast
    rfl

theorem floor_eq_of_chars_eq {t u : ClockText} (ht : t.InRange) (hu : u.InRange)
    (same : t.chars = u.chars) : ⌊t.value * 10 ^ 9⌋ = ⌊u.value * 10 ^ 9⌋ := by
  obtain ⟨c, read, counted⟩ := ofChars?_chars ht
  obtain ⟨c', read', counted'⟩ := ofChars?_chars hu
  rw [same, read'] at read
  obtain rfl := Option.some.inj read
  rw [← counted, ← counted']

/-- What is written of a number of nanoseconds within a day is a reading of that number. -/
theorem exists_reading {n : Nat} (lt : n < 86400 * Clock.nanosPerSecond) :
    ∃ t : ClockText,
      t.chars = Clock.chars ⟨n / Clock.nanosPerSecond, n % Clock.nanosPerSecond⟩ ∧
      t.IsReading ∧ t.value * 10 ^ 9 = n := by
  have short : n % Clock.nanosPerSecond < Clock.nanosPerSecond := Nat.mod_lt n (by decide)
  obtain ⟨ds, written, digits, denotes⟩ := exists_fraction short
  have leap : n % Clock.nanosPerSecond / Clock.nanosPerSecond = 0 := Nat.div_eq_of_lt short
  have split : (n : ℚ) = (n / Clock.nanosPerSecond : Nat) * 10 ^ 9 +
      (n % Clock.nanosPerSecond : Nat) := by
    exact_mod_cast (Nat.div_add_mod' n (10 ^ 9)).symm
  have seconds : n / Clock.nanosPerSecond < 86400 := (Nat.div_lt_iff_lt_mul (by decide)).2 lt
  generalize n / Clock.nanosPerSecond = s at *
  obtain ⟨h, m, s'⟩ : s / 3600 < 100 ∧ s / 60 % 60 < 100 ∧ s % 60 < 100 := by omega
  let t : ClockText := ⟨.ofNat (s / 3600) h, .ofNat (s / 60 % 60) m, .ofNat (s % 60) s', ds, digits⟩
  have hour : t.hour.value = s / 3600 := Part.value_ofNat h
  have minute : t.minute.value = s / 60 % 60 := Part.value_ofNat m
  have second : t.second.value = s % 60 := Part.value_ofNat s'
  have whole : t.wholeSeconds = s := by
    rw [wholeSeconds, hour, minute, second]
    omega
  refine ⟨t, ?_, ?_, ?_⟩
  · simp [chars, Clock.chars, t, leap, written]
  · exact ⟨Part.plain_ofNat h, Part.plain_ofNat m, Part.plain_ofNat s', by omega, by omega,
      by omega⟩
  · rw [value, whole, add_mul, denotes, split]

end ClockText

/-! ## The end of the day -/

def Clock.nanosPerDay : Int := 86400000000000

/-- The text is of a second 60 that ends a day. -/
def Clock.InLastLeapSecond (s : String) : Prop :=
  ∃ t : ClockText, t.chars = s.toList ∧
    t.hour.value = 23 ∧ t.minute.value = 59 ∧ t.second.value = 60

/-- Only the leap second that ends the day comes after the day. -/
theorem ClockText.InRange.inLastLeapSecond_iff {t : ClockText} {s : String} (inRange : t.InRange)
    (chars : t.chars = s.toList) :
    Clock.InLastLeapSecond s ↔ Clock.nanosPerDay ≤ ⌊t.value * 10 ^ 9⌋ := by
  have day : Clock.nanosPerDay = 86400 * 10 ^ 9 := rfl
  constructor
  · rintro ⟨u, chars', hour, minute, second⟩
    have inRange' : u.InRange := ⟨by omega, by omega, by omega⟩
    have bounds := u.floor_bounds
    rw [wholeSeconds, hour, minute, second] at bounds
    rw [floor_eq_of_chars_eq inRange inRange' (chars.trans chars'.symm)]
    omega
  · intro late
    have bounds := t.floor_bounds
    obtain ⟨hour_lt, minute_lt, second_le⟩ := inRange
    rw [wholeSeconds] at bounds
    exact ⟨t, chars, by omega, by omega, by omega⟩

end CqlClient
