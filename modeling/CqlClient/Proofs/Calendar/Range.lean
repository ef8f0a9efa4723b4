import CqlClient.Calendar.Instant
import Mathlib.Algebra.Order.Ring.Int
import Mathlib.Tactic.Ring

/-!
# What calendar texts can hold

Whatever is read from the text of a day, a time or an instant is small. By `Clock.ofChars?_bounds`,
`Date.toDays_bounds` and `Instant.ofChars?_bounds` the counts of nanoseconds, days and milliseconds
have room in the integers that CQL keeps them in.
-/

namespace CqlClient

theorem ofDigitChars_lt {ds : List Char} (digits : ∀ d ∈ ds, d.isDigit) (n : Nat) :
    Nat.ofDigitChars 10 ds n < (n + 1) * 10 ^ ds.length := by
  induction ds generalizing n with
  | nil => simp
  | cons d ds ih =>
    obtain ⟨first, rest⟩ := List.forall_mem_cons.1 digits
    have small : d.toNat - '0'.toNat ≤ 9 := by
      simp only [Char.isDigit, Bool.and_eq_true, decide_eq_true_eq, UInt32.le_iff_toNat_le] at first
      exact Nat.sub_le_of_le_add first.2
    rw [Nat.ofDigitChars_cons, List.length_cons, Nat.pow_succ']
    calc _ < (10 * n + (d.toNat - '0'.toNat) + 1) * 10 ^ ds.length := ih rest _
      _ ≤ (10 * n + 10) * 10 ^ ds.length := Nat.mul_le_mul_right _ (by omega)
      _ = (n + 1) * (10 * 10 ^ ds.length) := by ring

theorem Calendar.nanos_lt {cs rest : List Char} {nanos : Nat}
    (h : scanFraction? cs = some (nanos, rest)) : nanos < Clock.nanosPerSecond := by
  unfold scanFraction? at h
  split at h
  · rename_i cs
    dsimp only at h
    split at h
    · cases h
    · obtain ⟨rfl, -⟩ := Prod.mk.inj (Option.some.inj h)
      have few : ((cs.take 9).takeWhile Char.isDigit).length ≤ 9 :=
        ((List.takeWhile_prefix _).length_le).trans (List.length_take_le 9 cs)
      have digits : ∀ d ∈ (cs.take 9).takeWhile Char.isDigit, d.isDigit :=
        List.all_eq_true.1 List.all_takeWhile
      have below := ofDigitChars_lt digits 0
      generalize ((cs.take 9).takeWhile Char.isDigit) = ds at *
      calc _ < (0 + 1) * 10 ^ ds.length * 10 ^ (9 - ds.length) :=
            Nat.mul_lt_mul_of_pos_right below (Nat.pow_pos (by decide))
        _ = 10 ^ 9 := by rw [Nat.zero_add, Nat.one_mul, ← Nat.pow_add, Nat.add_sub_cancel' few]
  · obtain ⟨rfl, -⟩ := Prod.mk.inj (Option.some.inj h)
    decide

theorem Clock.of?_bounds {hour minute second nanos : Nat} {c : Clock} (few : nanos < nanosPerSecond)
    (h : of? hour minute second nanos = some c) :
    c.seconds < 86400 ∧ c.nanos < 2 * nanosPerSecond := by
  unfold of? at h
  split at h
  · split at h <;> cases h <;> simp only <;> omega
  · cases h

theorem Clock.ofChars?_bounds {cs : List Char} {c : Clock} (h : ofChars? cs = some c) :
    c.seconds < 86400 ∧ c.nanos < 2 * nanosPerSecond := by
  simp only [ofChars?, Option.bind_eq_bind, Option.bind_eq_some_iff,
    Option.ite_none_right_eq_some] at h
  obtain ⟨⟨hour, _⟩, -, _, -, ⟨minute, _⟩, -, _, -, ⟨second, _⟩, -, ⟨nanos, _⟩, fraction, -, h⟩ := h
  exact of?_bounds (Calendar.nanos_lt fraction) h

theorem Date.toDays_bounds {d : Date} (valid : d.isValid) :
    -10 ^ 8 < d.toDays ∧ d.toDays < 10 ^ 8 := by
  have days (year : Int) (month : Nat) : daysInMonth year month ≤ 31 := by
    unfold daysInMonth
    split <;> split <;> omega
  have := days d.year d.month
  simp only [isValid, Bool.and_eq_true, decide_eq_true_eq] at valid
  simp only [leastYear, greatestYear] at valid
  unfold toDays
  dsimp only
  split <;> omega

theorem Instant.offset_bounds {cs rest : List Char} {offset : Int}
    (h : scanOffset? cs = some (offset, rest)) : -1440 < offset ∧ offset < 1440 := by
  have signless {cs rest : List Char} {offset : Int}
      (h : scanHoursMinutes? cs = some (offset, rest)) : 0 ≤ offset ∧ offset < 1440 := by
    simp only [scanHoursMinutes?, Option.bind_eq_bind, Option.bind_eq_some_iff,
      Option.ite_none_right_eq_some] at h
    obtain ⟨⟨hours, _⟩, -, _, -, ⟨minutes, _⟩, -, small, h⟩ := h
    obtain ⟨rfl, -⟩ := Prod.mk.inj (Option.some.inj h)
    omega
  unfold scanOffset? at h
  split at h
  · cases h
  · split at h
    · cases h
      decide
    · split at h
      · have := signless h
        omega
      · split at h
        · obtain ⟨⟨offset', _⟩, found, same⟩ := Option.map_eq_some_iff.1 h
          cases same
          have := signless found
          omega
        · cases h

theorem Instant.ofChars?_bounds {cs : List Char} {millis : Int} (h : ofChars? cs = some millis) :
    -10 ^ 17 < millis ∧ millis < 10 ^ 17 := by
  obtain ⟨⟨year, _⟩, -, h⟩ := Option.bind_eq_some_iff.1 h
  obtain ⟨_, -, h⟩ := Option.bind_eq_some_iff.1 h
  obtain ⟨⟨month, _⟩, -, h⟩ := Option.bind_eq_some_iff.1 h
  obtain ⟨_, -, h⟩ := Option.bind_eq_some_iff.1 h
  obtain ⟨⟨day, _⟩, -, h⟩ := Option.bind_eq_some_iff.1 h
  obtain ⟨_, -, h⟩ := Option.bind_eq_some_iff.1 h
  obtain ⟨⟨hour, _⟩, -, h⟩ := Option.bind_eq_some_iff.1 h
  obtain ⟨_, -, h⟩ := Option.bind_eq_some_iff.1 h
  obtain ⟨⟨minute, _⟩, -, h⟩ := Option.bind_eq_some_iff.1 h
  obtain ⟨_, -, h⟩ := Option.bind_eq_some_iff.1 h
  obtain ⟨⟨second, _⟩, -, h⟩ := Option.bind_eq_some_iff.1 h
  obtain ⟨⟨nanos, _⟩, fraction, h⟩ := Option.bind_eq_some_iff.1 h
  obtain ⟨⟨offset, _⟩, moved, h⟩ := Option.bind_eq_some_iff.1 h
  obtain ⟨clock, counted, h⟩ := Option.bind_eq_some_iff.1 h
  obtain ⟨valid, h⟩ := Option.ite_none_right_eq_some.1 h
  have date := Date.toDays_bounds (Bool.and_eq_true_iff.1 valid).2
  have offset := offset_bounds moved
  have clock := Clock.of?_bounds (Calendar.nanos_lt fraction) counted
  cases h
  simp only [millisPerDay, Clock.nanosPerSecond] at *
  omega

end CqlClient
