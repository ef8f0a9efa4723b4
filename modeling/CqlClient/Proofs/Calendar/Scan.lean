import CqlClient.Calendar.Date
import Mathlib.Algebra.Order.Ring.Int
import Mathlib.Data.List.Infix

/-!
# Numbers in calendar texts

A number is taken from the front of a text digit by digit. By `Calendar.scanNumber?_append` it is
taken whole if no digit follows it or if it is as long as it may be, and then what was padded is
read back; by `Calendar.Part.scan_append` and `Calendar.Part.exists_of_scan` the parts of days and
times are numbers of one or two digits after blanks.
-/

namespace CqlClient.Calendar

variable {cs ds rest : List Char} {least most n : Nat}

/-! ## Digits -/

/-- No digit comes next. -/
def Stops (cs : List Char) : Prop := ∀ c ∈ cs.head?, ¬ c.isDigit

theorem stops_nil : Stops [] := nofun

theorem stops_cons {c : Char} (h : ¬ c.isDigit) : Stops (c :: cs) := by
  rintro _ ⟨⟩
  exact h

theorem Stops.take (stops : Stops cs) (count : Nat) : Stops (cs.take count) := by
  cases cs with
  | nil =>
    rw [List.take_nil]
    exact stops_nil
  | cons c cs =>
    cases count with
    | zero => exact stops_nil
    | succ count => exact stops

theorem takeWhile_of_stops (stops : Stops cs) : cs.takeWhile Char.isDigit = [] := by
  cases cs with
  | nil => rfl
  | cons c cs => exact List.takeWhile_cons_of_neg (stops c rfl)

theorem dropWhile_of_stops (stops : Stops cs) : cs.dropWhile Char.isDigit = cs := by
  cases cs with
  | nil => rfl
  | cons c cs => exact List.dropWhile_cons_of_neg (stops c rfl)

theorem not_isBlank_of_isDigit {c : Char} (h : c.isDigit) : ¬ Text.isBlank c := by
  have between : 48 ≤ c.toNat ∧ c.toNat ≤ 57 := by
    simp only [Char.isDigit, Bool.and_eq_true, decide_eq_true_eq, UInt32.le_iff_toNat_le] at h
    exact h
  simp [Text.isBlank, Text.inRanges, Text.blankRanges]
  omega

theorem dropWhile_isBlank_digits (digits : ∀ d ∈ ds, d.isDigit) (filled : ds ≠ []) :
    (ds ++ rest).dropWhile Text.isBlank = ds ++ rest := by
  cases ds with
  | nil => exact absurd rfl filled
  | cons d ds =>
    rw [List.cons_append, List.dropWhile_cons_of_neg]
    exact not_isBlank_of_isDigit (digits d List.mem_cons_self)

/-! ## Numbers -/

/-- A number is taken whole if no digit follows it or if it is as long as it may be. -/
theorem scanNumber?_append (digits : ∀ d ∈ ds, d.isDigit) (ge : least ≤ ds.length)
    (le : ds.length ≤ most) (ends : ds.length = most ∨ Stops rest) :
    scanNumber? least most (ds ++ rest) = some (Nat.ofDigitChars 10 ds 0, rest) := by
  have stops : Stops (rest.take (most - ds.length)) := by
    rcases ends with full | stops
    · rw [full, Nat.sub_self, List.take_zero]
      exact stops_nil
    · exact stops.take _
  have taken : ((ds ++ rest).take most).takeWhile Char.isDigit = ds := by
    rw [List.take_append, List.take_of_length_le le, List.takeWhile_append_of_pos digits,
      takeWhile_of_stops stops, List.append_nil]
  simp only [scanNumber?, taken]
  rw [if_pos ge, List.drop_left]

theorem exists_of_scanNumber? (h : scanNumber? least most cs = some (n, rest)) :
    ∃ ds, cs = ds ++ rest ∧ (∀ d ∈ ds, d.isDigit) ∧ least ≤ ds.length ∧ ds.length ≤ most ∧
      n = Nat.ofDigitChars 10 ds 0 := by
  unfold scanNumber? at h
  dsimp only at h
  obtain ⟨ge, h⟩ := Option.ite_none_right_eq_some.1 h
  obtain ⟨rfl, rfl⟩ := Prod.mk.inj (Option.some.inj h)
  have front : (cs.take most).takeWhile Char.isDigit <+: cs.take most := List.takeWhile_prefix _
  refine ⟨_, List.prefix_append_drop (front.trans (List.take_prefix _ _)),
    List.all_eq_true.1 List.all_takeWhile, ge, ?_, rfl⟩
  exact front.length_le.trans (List.length_take_le most cs)

theorem scanNumber?_eq_none (pos : 1 ≤ least) (stops : Stops cs) :
    scanNumber? least most cs = none := by
  simp only [scanNumber?, takeWhile_of_stops (stops.take most)]
  exact if_neg (Nat.not_le_of_lt pos)

theorem scanChar?_eq_some_iff {c : Char} : scanChar? c cs = some rest ↔ cs = c :: rest := by
  cases cs with
  | nil => simp [scanChar?]
  | cons d cs =>
    simp only [scanChar?, Option.ite_none_right_eq_some, Option.some.injEq, List.cons.injEq]

@[simp]
theorem scanChar?_cons (c : Char) (cs : List Char) : scanChar? c (c :: cs) = some cs :=
  scanChar?_eq_some_iff.2 rfl

/-! ## Padding -/

theorem isDigit_of_mem_padded {width : Nat} {d : Char} (h : d ∈ padded width n) : d.isDigit := by
  rcases List.mem_append.1 h with zero | digit
  · rw [List.eq_of_mem_replicate zero]
    decide
  · exact Nat.isDigit_of_mem_toDigits (by decide) (by decide) digit

theorem ofDigitChars_padded (width n : Nat) : Nat.ofDigitChars 10 (padded width n) 0 = n := by
  rw [padded, Nat.ofDigitChars_append, Nat.ofDigitChars_replicate_zero, Nat.mul_zero,
    Nat.ofDigitChars_ten_toDigits]

theorem length_padded {width : Nat} (pos : 0 < width) (lt : n < 10 ^ width) :
    (padded width n).length = width := by
  have short := (Nat.length_toDigits_le_iff (by decide) pos).2 lt
  rw [padded, List.length_append, List.length_replicate, Nat.sub_add_cancel short]

theorem padded_ne_nil (width n : Nat) : padded width n ≠ [] :=
  List.append_ne_nil_of_right_ne_nil _ Nat.toDigits_ne_nil

theorem scanNumber?_padded {width : Nat} (pos : 0 < width) (lt : n < 10 ^ width)
    (le : least ≤ width) : scanNumber? least width (padded width n ++ rest) = some (n, rest) := by
  have length := length_padded pos lt
  rw [scanNumber?_append (fun d => isDigit_of_mem_padded) (by omega) (by omega) (.inl length),
    ofDigitChars_padded]

/-! ## Parts -/

/-- A number of one or two digits after blanks. -/
structure Part where
  blanks : List Char
  digits : List Char
  isBlank : ∀ c ∈ blanks, Text.isBlank c
  isDigit : ∀ d ∈ digits, d.isDigit
  ne_nil : digits ≠ []
  short : digits.length ≤ 2

namespace Part

def chars (p : Part) : List Char := p.blanks ++ p.digits

def value (p : Part) : Nat := Nat.ofDigitChars 10 p.digits 0

def Plain (p : Part) : Prop := p.blanks = [] ∧ p.digits.length = 2

theorem scan_append (p : Part) (stops : Stops rest) :
    Date.scanPart? (p.chars ++ rest) = some (p.value, rest) := by
  rw [Date.scanPart?, chars, List.append_assoc, List.dropWhile_append_of_pos p.isBlank,
    dropWhile_isBlank_digits p.isDigit p.ne_nil]
  exact scanNumber?_append p.isDigit (List.length_pos_iff.2 p.ne_nil) p.short (.inr stops)

theorem exists_of_scan (h : Date.scanPart? cs = some (n, rest)) :
    ∃ p : Part, cs = p.chars ++ rest ∧ n = p.value := by
  obtain ⟨ds, split, digits, ge, le, value⟩ := exists_of_scanNumber? h
  refine ⟨⟨cs.takeWhile Text.isBlank, ds, List.all_eq_true.1 List.all_takeWhile, digits,
    List.length_pos_iff.1 ge, le⟩, ?_, value⟩
  rw [chars, List.append_assoc, ← split, List.takeWhile_append_dropWhile]

/-- The two digits of a number below 100. -/
def ofNat (n : Nat) (lt : n < 100) : Part where
  blanks := []
  digits := padded 2 n
  isBlank := nofun
  isDigit _ := isDigit_of_mem_padded
  ne_nil := padded_ne_nil 2 n
  short := (length_padded Nat.two_pos lt).le

@[simp]
theorem chars_ofNat (lt : n < 100) : (ofNat n lt).chars = padded 2 n := rfl

@[simp]
theorem value_ofNat (lt : n < 100) : (ofNat n lt).value = n := ofDigitChars_padded 2 n

theorem plain_ofNat (lt : n < 100) : (ofNat n lt).Plain := ⟨rfl, length_padded Nat.two_pos lt⟩

end Part

end CqlClient.Calendar
