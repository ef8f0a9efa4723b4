import CqlClient.Cql.Decode
import CqlClient.Proofs.Calendar.Text
import CqlClient.Proofs.Cql.Typing

/-!
# Days, instants and times that are read back

Values of the calendar are decoded to texts where the calendar reaches them, and to numbers
elsewhere. Main statements:

* `date_read_back`: a day is bound again from its text, and what is bound from any text of a day has
  a text.
* `timestamp_rebound_iff`: an instant is bound again unless its year is written with a sign.
* `time_of_day_iff`: a text of a time is bound as a time of day unless it is in the leap second that
  ends the day.
* `decodedAsHeld_iff`: a number of nanoseconds is decoded as the time of day that it is, or to
  itself if it is none, unless it comes to a time of day by wrapping around at `2 ^ 32` seconds.
-/

namespace CqlClient

namespace CqlValue

variable {v : Json} {c : CqlValue} {s : String}

theorem bind_native_error {t : NativeType} (present : v ≠ .null) (none : ofNative? t v = none) :
    bind (.native t) v = .error ⟨v, .native t⟩ := by
  cases v with
  | null => exact absurd rfl present
  | _ => simp [bind, none, orFault, Bind.bind, Except.bind]

/-! ## Days -/

theorem bind_date_iff : bind (.native .date) (.str s) = .ok (some c) ↔
    ∃ (d : Date) (days : Nat), Date.ofChars? s.toList = some d ∧ d.toDays = days - 2 ^ 31 ∧
      days < 2 ^ 32 ∧ c = .date days := by
  have epoch : epochDay = 2 ^ 31 := rfl
  rw [bind_eq_some_iff]
  constructor
  · intro means
    cases means with
    | date read counted fits => exact ⟨_, _, read, by omega, fits, rfl⟩
  · rintro ⟨d, days, read, counted, fits, rfl⟩
    exact NativeType.Means.date read (by omega) fits

theorem toJson_date {days : Nat} {d : Date} (valid : d.isValid) (nth : d.IsNth (days - 2 ^ 31)) :
    toJson (.date days) = .str (String.ofList d.chars) := by
  have epoch : epochDay = 2 ^ 31 := rfl
  rw [toJson, dateJson, epoch, Date.ofDays?_eq_some_iff.2 ⟨valid, nth⟩]

theorem bind_date_chars {days : Nat} {d : Date} (valid : d.isValid)
    (nth : d.IsNth (days - 2 ^ 31)) :
    bind (.native .date) (.str (String.ofList d.chars)) = .ok (some (.date days)) := by
  have counted := (Date.isNth_iff (Date.isValid_iff.1 valid).1).1 nth
  have bounds := Date.toDays_bounds valid
  have read := Date.ofChars?_chars valid
  rw [← String.toList_ofList (l := d.chars)] at read
  exact bind_date_iff.2 ⟨d, days, read, counted, by omega, rfl⟩

/-- A day of the calendar is decoded to its text, which is bound to the day again, and any other
count of days to the number itself. What is bound from a text of a day is decoded to a text from
which it is bound again. -/
theorem date_read_back :
    (∀ days : Nat,
      (∀ d : Date, d.isValid → d.IsNth (days - 2 ^ 31) →
        toJson (.date days) = .str (String.ofList d.chars) ∧
        bind (.native .date) (.str (String.ofList d.chars)) = .ok (some (.date days))) ∧
      (toJson (.date days) = .int days ↔ ¬ Date.InCalendar (days - 2 ^ 31))) ∧
    ∀ s c, bind (.native .date) (.str s) = .ok (some c) → ∃ s', toJson c = .str s' ∧
      bind (.native .date) (.str s') = .ok (some c) := by
  refine ⟨fun days => ⟨fun d valid nth => ?_, ?_⟩, fun s c bound => ?_⟩
  · exact ⟨toJson_date valid nth, bind_date_chars valid nth⟩
  · constructor
    · rintro number ⟨d, valid, nth⟩
      rw [toJson_date valid nth] at number
      cases number
    · intro outside
      have epoch : epochDay = 2 ^ 31 := rfl
      rw [toJson, dateJson, epoch, Date.ofDays?_eq_none_iff.2 outside]
  · obtain ⟨d, days, read, counted, -, rfl⟩ := bind_date_iff.1 bound
    have valid := Date.isValid_of_ofChars? read
    have nth := (Date.isNth_iff (Date.isValid_iff.1 valid).1).2 counted
    exact ⟨_, toJson_date valid nth, bind_date_chars valid nth⟩

theorem first_day_read_back :
    toJson (.date 2051018356) = .str "-262143-01-01" ∧
    bind (.native .date) (.str "-262143-01-01") = .ok (some (.date 2051018356)) ∧
    bind (.native .date) (.str " +2024-2-29") = .ok (some (.date 2147503430)) ∧
    ∃ s', toJson (.date 2147503430) = .str s' ∧
      bind (.native .date) (.str s') = .ok (some (.date 2147503430)) := by
  let first : Date := ⟨-262143, 1, 1⟩
  have valid : first.isValid := by decide
  have nth : first.IsNth ((2051018356 : Nat) - 2 ^ 31) :=
    (Date.isNth_iff (Date.isValid_iff.1 valid).1).2 (by decide)
  have text : String.ofList first.chars = "-262143-01-01" := by decide
  have bound : bind (.native .date) (.str " +2024-2-29") = .ok (some (.date 2147503430)) := by
    exact bind_date_iff.2 ⟨⟨2024, 2, 29⟩, 2147503430, by decide, by decide, by decide, rfl⟩
  obtain ⟨days, texts⟩ := date_read_back
  obtain ⟨decoded, rebound⟩ := (days 2051018356).1 first valid nth
  rw [text] at decoded rebound
  exact ⟨decoded, rebound, bound, texts _ _ bound⟩

/-! ## Instants -/

theorem timestamp_rebound {millis : Int} (fits : FitsBits 64 millis)
    (unsigned : ¬ Instant.HasSignedYear millis) :
    bind (.native .timestamp) (toJson (.timestamp millis)) = .ok (some (.timestamp millis)) := by
  rw [toJson, timestampJson, bind_eq_some_iff]
  split
  · rename_i cs written
    have read := Instant.ofChars?_of_chars? written unsigned
    rw [← String.toList_ofList (l := cs)] at read
    exact NativeType.Means.instant read
  · exact NativeType.Means.millis fits

theorem timestamp_refused {millis : Int} (signed : Instant.HasSignedYear millis) :
    let back := toJson (.timestamp millis)
    bind (.native .timestamp) back = .error ⟨back, .native .timestamp⟩ := by
  have ⟨d, valid, nth, _⟩ := signed
  have found := Date.ofDays?_eq_some_iff.2 ⟨valid, nth⟩
  obtain ⟨cs, written⟩ : ∃ cs, Instant.chars? millis = some cs :=
    ⟨_, Option.map_eq_some_iff.2 ⟨d, found, rfl⟩⟩
  have unread := Instant.ofChars?_of_signed written signed
  have text : toJson (.timestamp millis) = .str (String.ofList cs) := by
    rw [toJson, timestampJson, written]
  rw [text]
  refine bind_native_error nofun ?_
  rw [ofNative?, timestamp?, String.toList_ofList, unread, Option.map_none]

/-- An instant is bound again as it is decoded, from its text or from its number, unless its year
is written with a sign. Then it is decoded to a text from which nothing is bound. -/
theorem timestamp_rebound_iff {millis : Int} (fits : FitsBits 64 millis) :
    let back := toJson (.timestamp millis)
    (bind (.native .timestamp) back = .ok (some (.timestamp millis)) ↔
      ¬ Instant.HasSignedYear millis) ∧
    (Instant.HasSignedYear millis →
      bind (.native .timestamp) back = .error ⟨back, .native .timestamp⟩) ∧
    (Instant.HasSignedYear millis ↔
      -8334601228800000 ≤ millis ∧ millis < -62167219200000 ∨
      253402300800000 ≤ millis ∧ millis < 8210266876800000) := by
  refine ⟨⟨fun bound signed => ?_, timestamp_rebound fits⟩, timestamp_refused,
    Instant.hasSignedYear_iff⟩
  rw [timestamp_refused signed] at bound
  cases bound

/-- The first instant of the year 10000 is not bound again, and the last before it is. -/
theorem signed_year_not_rebound :
    FitsBits 64 253402300800000 ∧
    toJson (.timestamp 253402300800000) = .str "+10000-01-01T00:00:00+00:00" ∧
    bind (.native .timestamp) (.str "+10000-01-01T00:00:00+00:00") =
      .error ⟨.str "+10000-01-01T00:00:00+00:00", .native .timestamp⟩ ∧
    bind (.native .timestamp) (toJson (.timestamp 253402300799999)) =
      .ok (some (.timestamp 253402300799999)) := by
  have fits : FitsBits 64 253402300800000 := by decide
  obtain ⟨-, refused, limits⟩ := timestamp_rebound_iff fits
  obtain ⟨rebound, -, limits'⟩ :=
    timestamp_rebound_iff (show FitsBits 64 253402300799999 by decide)
  have chars : Instant.chars? 253402300800000 = some "+10000-01-01T00:00:00+00:00".toList := by
    decide
  have text : toJson (.timestamp 253402300800000) = .str "+10000-01-01T00:00:00+00:00" := by
    rw [toJson, timestampJson, chars]
    exact congrArg Json.str String.ofList_toList
  rw [text] at refused
  exact ⟨fits, text, refused (limits.2 (.inr (by decide))),
    rebound.2 (mt limits'.1 (by decide))⟩

/-! ## Times -/

theorem bind_time_iff : bind (.native .time) (.str s) = .ok (some c) ↔
    ∃ t : ClockText, t.chars = s.toList ∧ t.InRange ∧ c = .time ⌊t.value * 10 ^ 9⌋ := by
  rw [bind_eq_some_iff]
  constructor
  · intro means
    cases means with
    | time read =>
      obtain ⟨t, chars, inRange, counted⟩ := ClockText.exists_of_ofChars? read
      exact ⟨t, chars, inRange, congrArg time counted⟩
  · rintro ⟨t, chars, inRange, rfl⟩
    obtain ⟨c, read, counted⟩ := ClockText.ofChars?_chars inRange
    rw [chars] at read
    rw [← counted]
    exact NativeType.Means.time read

/-- The nanoseconds are decoded to a clock reading of their number, from which they are bound. -/
def ReadsBack (n : Int) : Prop :=
  ∃ t : ClockText, t.IsReading ∧ t.value * 10 ^ 9 = n ∧
    toJson (.time n) = .str (String.ofList t.chars) ∧
    bind (.native .time) (.str (String.ofList t.chars)) = .ok (some (.time n))

/-- What is left of nanoseconds when `2 ^ 32` seconds are taken off as often as it takes. -/
def wrapped (n : Int) : Int := n % (2 ^ 32 * 10 ^ 9)

/-- The nanoseconds are no time of day and come to one by wrapping around. Negative ones do only if
they have no part of a second. -/
def Wraps (n : Int) : Prop :=
  ¬ (0 ≤ n ∧ n < Clock.nanosPerDay) ∧ wrapped n < Clock.nanosPerDay ∧ (0 ≤ n ∨ 10 ^ 9 ∣ n)

instance (n : Int) : Decidable (Wraps n) := inferInstanceAs (Decidable (_ ∧ _ ∧ _))

theorem wrapped_of_lt {n : Int} (nonneg : 0 ≤ n) (lt : n < Clock.nanosPerDay) : wrapped n = n := by
  unfold Clock.nanosPerDay at lt
  unfold wrapped
  omega

theorem low32_parts {n : Int} (whole : 0 ≤ n ∨ 10 ^ 9 ∣ n) :
    low32 (n.tdiv Clock.nanosPerSecond) = (wrapped n).toNat / Clock.nanosPerSecond ∧
      low32 (n.tmod Clock.nanosPerSecond) = (wrapped n).toNat % Clock.nanosPerSecond := by
  have width : Int.pow 2 32 = 4294967296 := rfl
  have second : (Clock.nanosPerSecond : Int) = 1000000000 := rfl
  unfold low32 wrapped
  rw [width, second]
  unfold Clock.nanosPerSecond
  -- Truncated division is Euclidean where no part of a second is cut off below zero.
  rcases whole with nonneg | ⟨q, rfl⟩
  · rw [Int.tdiv_eq_ediv_of_nonneg nonneg, Int.tmod_eq_emod_of_nonneg nonneg]
    omega
  · rw [show (10 : Int) ^ 9 = 1000000000 from rfl, Int.mul_tdiv_cancel_left _ (by decide),
      Int.mul_tmod_right]
    omega

theorem low32_tmod_of_neg {n : Int} (neg : n < 0) (part : ¬ (10 ^ 9 : Int) ∣ n) :
    2 * Clock.nanosPerSecond ≤ low32 (n.tmod Clock.nanosPerSecond) := by
  have width : Int.pow 2 32 = 4294967296 := rfl
  have second : (Clock.nanosPerSecond : Int) = 10 ^ 9 := rfl
  have above := Int.lt_tmod_of_pos n (show 0 < (10 ^ 9 : Int) by decide)
  have nonneg := Int.tmod_nonneg (10 ^ 9) (show 0 ≤ -n by omega)
  rw [Int.neg_tmod] at nonneg
  have ne : n.tmod (10 ^ 9) ≠ 0 := fun zero => part (Int.dvd_of_tmod_eq_zero zero)
  unfold low32
  rw [width, second]
  unfold Clock.nanosPerSecond
  omega

/-- Nanoseconds are decoded to the text of the time of day that they come to by wrapping around, if
they come to one. -/
theorem toJson_time (n : Int) : toJson (.time n) =
    if wrapped n < Clock.nanosPerDay ∧ (0 ≤ n ∨ 10 ^ 9 ∣ n) then
      .str (String.ofList (Clock.chars ⟨(wrapped n).toNat / Clock.nanosPerSecond,
        (wrapped n).toNat % Clock.nanosPerSecond⟩))
    else .int n := by
  rw [toJson, timeJson]
  by_cases whole : 0 ≤ n ∨ 10 ^ 9 ∣ n
  · obtain ⟨seconds, nanos⟩ := low32_parts whole
    rw [seconds, nanos, Clock.ofSeconds?_of_lt (Nat.mod_lt _ (by decide))]
    have day : (wrapped n).toNat / Clock.nanosPerSecond < 86400 ↔
        wrapped n < Clock.nanosPerDay := by
      unfold Clock.nanosPerSecond Clock.nanosPerDay
      omega
    by_cases within : wrapped n < Clock.nanosPerDay
    · rw [if_pos (day.2 within), if_pos ⟨within, whole⟩]
    · rw [if_neg (mt day.1 within), if_neg fun h => within h.1]
  · -- The remainder is negative and comes to more than two seconds in 32 bits.
    have outside := low32_tmod_of_neg (n := n) (by omega) fun h => whole (.inr h)
    rw [Clock.ofSeconds?_of_two_le outside, if_neg fun h => whole h.2]

theorem toJson_time_of_wraps {n : Int} (wraps : Wraps n) :
    toJson (.time n) = toJson (.time (wrapped n)) := by
  obtain ⟨-, within, whole⟩ := wraps
  have nonneg : 0 ≤ wrapped n := Int.emod_nonneg _ (by decide)
  have same := wrapped_of_lt nonneg within
  rw [toJson_time n, toJson_time (wrapped n), same, if_pos ⟨within, whole⟩,
    if_pos ⟨within, .inl nonneg⟩]

theorem readsBack {n : Int} (nonneg : 0 ≤ n) (lt : n < Clock.nanosPerDay) : ReadsBack n := by
  have same := wrapped_of_lt nonneg lt
  obtain ⟨t, chars, reading, denotes⟩ := ClockText.exists_reading (n := n.toNat)
    (by unfold Clock.nanosPerDay at lt; unfold Clock.nanosPerSecond; omega)
  have value : t.value * 10 ^ 9 = n := by
    rw [denotes]
    exact_mod_cast Int.toNat_of_nonneg nonneg
  refine ⟨t, reading, value, ?_, ?_⟩
  · rw [toJson_time, same, if_pos ⟨lt, .inl nonneg⟩, chars]
  · refine bind_time_iff.2 ⟨t, String.toList_ofList.symm, reading.inRange, ?_⟩
    rw [value, Int.floor_intCast]

theorem toJson_time_of_not_wraps {n : Int} (outside : ¬ (0 ≤ n ∧ n < Clock.nanosPerDay))
    (unwrapped : ¬ Wraps n) : toJson (.time n) = .int n := by
  rw [toJson_time]
  exact if_neg fun h => unwrapped ⟨outside, h⟩

theorem toJson_time_of_leap_second {n : Int} (le : Clock.nanosPerDay ≤ n)
    (lt : n < Clock.nanosPerDay + 10 ^ 9) : toJson (.time n) = .int n := by
  refine toJson_time_of_not_wraps (fun within => by omega) ?_
  rintro ⟨-, within, -⟩
  unfold wrapped Clock.nanosPerDay at *
  omega

/-- What is bound from a text of a time is within a day unless the text is in a leap second at the
end of the day. Then it is within a second after the day. -/
theorem bounds_of_bind_time {n : Int}
    (bound : bind (.native .time) (.str s) = .ok (some (.time n))) :
    0 ≤ n ∧ n < Clock.nanosPerDay + 10 ^ 9 ∧
      (Clock.InLastLeapSecond s ↔ Clock.nanosPerDay ≤ n) := by
  obtain ⟨t, chars, inRange, counted⟩ := bind_time_iff.1 bound
  cases counted
  have bounds := t.floor_bounds
  have whole := inRange.wholeSeconds_le
  have day : Clock.nanosPerDay = 86400 * 10 ^ 9 := rfl
  exact ⟨by omega, by omega, inRange.inLastLeapSecond_iff chars⟩

/-- A text of a time is bound as a time of day that is read back, unless it is in a leap second at
the end of the day. Then more nanoseconds than a day has are bound. They are decoded to their
number, from which nothing is bound. -/
theorem time_of_day_iff (bound : bind (.native .time) (.str s) = .ok (some c)) :
    ((∃ n, c = .time n ∧ 0 ≤ n ∧ n < Clock.nanosPerDay ∧ ReadsBack n) ↔
      ¬ Clock.InLastLeapSecond s) ∧
    (Clock.InLastLeapSecond s → ∃ n, c = .time n ∧ Clock.nanosPerDay ≤ n ∧
      toJson c = .int n ∧
      bind (.native .time) (toJson c) = .error ⟨.int n, .native .time⟩) := by
  obtain ⟨t, -, -, rfl⟩ := bind_time_iff.1 bound
  obtain ⟨nonneg, lt, last⟩ := bounds_of_bind_time bound
  refine ⟨⟨?_, fun early => ?_⟩, fun late => ?_⟩
  · rintro ⟨n, counted, -, within, -⟩ late
    cases counted
    exact absurd (last.1 late) (not_le.2 within)
  · have within := not_le.1 (mt last.2 early)
    exact ⟨_, rfl, nonneg, within, readsBack nonneg within⟩
  · have number := toJson_time_of_leap_second (last.1 late) lt
    rw [number]
    exact ⟨_, rfl, last.1 late, rfl, bind_native_error nofun rfl⟩

/-- The leap second at the end of the day is bound to a day of nanoseconds, which is decoded to a
number. The leap second 12:30:60 is bound to the first nanosecond of the next minute. -/
theorem last_leap_second_bound :
    bind (.native .time) (.str "23:59:60") = .ok (some (.time 86400000000000)) ∧
    toJson (.time 86400000000000) = .int 86400000000000 ∧
    bind (.native .time) (.int 86400000000000) =
      .error ⟨.int 86400000000000, .native .time⟩ ∧
    bind (.native .time) (.str "12:30:60") = .ok (some (.time 45060000000000)) ∧
    ReadsBack 45060000000000 := by
  have bound : bind (.native .time) (.str "23:59:60") = .ok (some (.time 86400000000000)) :=
    bind_eq_some_iff.2 (.time (c := ⟨86399, 1000000000⟩) (by decide))
  have bound' : bind (.native .time) (.str "12:30:60") = .ok (some (.time 45060000000000)) :=
    bind_eq_some_iff.2 (.time (c := ⟨45059, 1000000000⟩) (by decide))
  let last : ClockText :=
    ⟨.ofNat 23 (by decide), .ofNat 59 (by decide), .ofNat 60 (by decide), [],
      List.forall_mem_nil _⟩
  have late : Clock.InLastLeapSecond "23:59:60" :=
    ⟨last, by decide, by decide, by decide, by decide⟩
  obtain ⟨-, refused⟩ := time_of_day_iff bound
  obtain ⟨n, same, -, number, refused⟩ := refused late
  cases same
  rw [number] at refused
  have early : ¬ Clock.InLastLeapSecond "12:30:60" := fun late => by
    obtain ⟨n, same, le, -⟩ := (time_of_day_iff bound').2 late
    cases same
    exact absurd le (by decide)
  obtain ⟨n, same, -, -, back⟩ := (time_of_day_iff bound').1.2 early
  cases same
  exact ⟨bound, number, refused, bound', back⟩

/-- A time of day is decoded to a reading of it, and any other number to itself. -/
def DecodedAsHeld (n : Int) : Prop :=
  if 0 ≤ n ∧ n < Clock.nanosPerDay then ReadsBack n else toJson (.time n) = .int n

/-- Numbers of nanoseconds are decoded as they are held unless they come to a time of day only by
wrapping around. Then they are decoded to a reading of that time. -/
theorem decodedAsHeld_iff (n : Int) : (DecodedAsHeld n ↔ ¬ Wraps n) ∧
    (Wraps n → ReadsBack (wrapped n) ∧ toJson (.time n) = toJson (.time (wrapped n))) := by
  refine ⟨?_, fun wraps => ⟨?_, toJson_time_of_wraps wraps⟩⟩
  · unfold DecodedAsHeld
    split
    · rename_i within
      exact ⟨fun _ wraps => wraps.1 within, fun _ => readsBack within.1 within.2⟩
    · rename_i outside
      refine ⟨fun number wraps => ?_, toJson_time_of_not_wraps outside⟩
      rw [toJson_time, if_pos wraps.2] at number
      cases number
  · exact readsBack (Int.emod_nonneg _ (by decide)) wraps.2.1

/-- `2 ^ 32` seconds are decoded to midnight, and a day of nanoseconds to its number. -/
theorem wrapped_seconds_decoded :
    toJson (.time 4294967296000000000) = .str "00:00:00" ∧
    ¬ DecodedAsHeld 4294967296000000000 ∧ DecodedAsHeld (-1) ∧
    toJson (.time 86400000000000) = .int 86400000000000 := by
  have wraps : Wraps 4294967296000000000 := by decide
  obtain ⟨held, wrapping⟩ := decodedAsHeld_iff 4294967296000000000
  have midnight : toJson (.time (wrapped 4294967296000000000)) = .str "00:00:00" := by
    rw [show wrapped 4294967296000000000 = 0 by decide, toJson]
    exact congrArg Json.str (by decide)
  have day : DecodedAsHeld 86400000000000 := (decodedAsHeld_iff _).1.2 (by decide)
  exact ⟨(wrapping wraps).2.trans midnight, fun h => held.1 h wraps,
    (decodedAsHeld_iff _).1.2 (by decide), day⟩

end CqlValue

end CqlClient
