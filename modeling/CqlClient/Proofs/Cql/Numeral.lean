import CqlClient.Cql.DecimalText
import Mathlib.Algebra.Order.Field.Rat
import Mathlib.Data.Nat.Digits.Lemmas
import Mathlib.Tactic.FieldSimp
import Mathlib.Tactic.Positivity
import Mathlib.Tactic.Ring

/-!
# What decimals stand for

The bytes of a decimal stand for an integer in two's complement, its text for a rational number. By
`TwosComplement.signed_eq_value` and `DecimalText.denotes_chars` the text of a decimal denotes the
integer of its bytes at its scale.
-/

namespace CqlClient

/-! ## Numerals -/

/-- A minus sign or none, digits, and perhaps a point with more digits. -/
structure Numeral where
  negative : Bool
  integer : List Char
  fraction : List Char
  integer_ne_nil : integer ≠ []
  digits : ∀ d ∈ integer ++ fraction, d.isDigit

namespace Numeral

def chars (t : Numeral) : List Char :=
  (if t.negative then ['-'] else []) ++ t.integer ++
    if t.fraction = [] then [] else '.' :: t.fraction

/-- The number that is written without sign and point. -/
def magnitude (t : Numeral) : Nat := Nat.ofDigitChars 10 (t.integer ++ t.fraction) 0

def value (t : Numeral) : ℚ :=
  (if t.negative then -(t.magnitude : ℚ) else t.magnitude) / 10 ^ t.fraction.length

end Numeral

/-- The text is a numeral of the given value. -/
def Denotes (cs : List Char) (q : ℚ) : Prop := ∃ t : Numeral, t.chars = cs ∧ t.value = q

namespace DecimalText

theorem isDigit_toDigits {n : Nat} {d : Char} (h : d ∈ Nat.toDigits 10 n) : d.isDigit :=
  Nat.isDigit_of_mem_toDigits (by decide) (by decide) h

theorem isDigit_replicate {n : Nat} {d : Char} (h : d ∈ List.replicate n '0') : d.isDigit := by
  rw [List.eq_of_mem_replicate h]
  decide

/-- The text of an unscaled integer and a scale is a numeral with as many digits after the point as
the scale says, and with a minus sign just if the integer is negative. -/
theorem exists_numeral (unscaled scale : Int) : ∃ t : Numeral,
    t.chars = chars unscaled scale ∧ (t.negative ↔ unscaled < 0) ∧ t.fraction.length = scale.toNat ∧
      t.magnitude = unscaled.natAbs * 10 ^ (-scale).toNat := by
  let ds := Nat.toDigits 10 unscaled.natAbs
  have digits : ∀ d ∈ ds, d.isDigit := fun d => isDigit_toDigits
  have read : Nat.ofDigitChars 10 ds 0 = unscaled.natAbs := Nat.ofDigitChars_ten_toDigits
  unfold chars
  split
  · rename_i whole
    let integer := ds ++ List.replicate scale.natAbs '0'
    refine ⟨⟨unscaled < 0, integer, [], ?_, ?_⟩, ?_, by simp, ?_, ?_⟩
    · exact List.append_ne_nil_of_left_ne_nil Nat.toDigits_ne_nil _
    · simp only [List.append_nil, integer, List.mem_append]
      rintro d (written | zero)
      · exact digits d written
      · exact isDigit_replicate zero
    · by_cases negative : unscaled < 0 <;>
        simp [Numeral.chars, Text.intChars, negative, integer, ds]
    · rw [Int.toNat_of_nonpos whole]
      rfl
    · have zeros : scale.natAbs = (-scale).toNat := by omega
      rw [Numeral.magnitude, List.append_nil, Nat.ofDigitChars_append, read,
        Nat.ofDigitChars_replicate_zero, zeros]
      exact Nat.mul_comm _ _
  · rename_i pointed
    let padded := List.replicate (scale.toNat + 1 - ds.length) '0' ++ ds
    let integer := padded.take (padded.length - scale.toNat)
    let fraction := padded.drop (padded.length - scale.toNat)
    have parts : integer ++ fraction = padded := List.take_append_drop _ _
    have long : scale.toNat + 1 ≤ padded.length := by
      rw [List.length_append, List.length_replicate]
      omega
    have places : fraction.length = scale.toNat := by
      rw [List.length_drop]
      omega
    refine ⟨⟨unscaled < 0, integer, fraction, ?_, ?_⟩, ?_, by simp, places, ?_⟩
    · rw [← List.length_pos_iff, List.length_take]
      omega
    · rw [parts]
      intro d among
      rcases List.mem_append.1 among with zero | written
      · exact isDigit_replicate zero
      · exact digits d written
    · have filled : fraction ≠ [] := by
        rw [← List.length_pos_iff, places]
        omega
      rw [Numeral.chars, if_neg filled]
      by_cases negative : unscaled < 0 <;> simp [negative, integer, fraction, padded, ds]
    · rw [Numeral.magnitude, parts, Nat.ofDigitChars_append, Nat.ofDigitChars_replicate_zero,
        Nat.mul_zero, read, show (-scale).toNat = 0 by omega, Nat.pow_zero, Nat.mul_one]

theorem value_eq {unscaled scale : Int} {t : Numeral} (negative : t.negative ↔ unscaled < 0)
    (places : t.fraction.length = scale.toNat)
    (magnitude : t.magnitude = unscaled.natAbs * 10 ^ (-scale).toNat) :
    t.value = unscaled * 10 ^ (-scale) := by
  have signed : (if t.negative then -(t.magnitude : ℚ) else t.magnitude) =
      unscaled * 10 ^ (-scale).toNat := by
    have abs : (unscaled.natAbs : ℚ) = ((unscaled.natAbs : Int) : ℚ) := (Int.cast_natCast _).symm
    rw [magnitude, Nat.cast_mul, abs, Nat.cast_pow, Nat.cast_ofNat]
    by_cases minus : unscaled < 0
    · rw [if_pos (negative.2 minus), ← neg_mul, ← Int.cast_neg,
        show -(unscaled.natAbs : Int) = unscaled by omega]
    · rw [if_neg (mt negative.1 minus), show (unscaled.natAbs : Int) = unscaled by omega]
  have shift : (10 : ℚ) ^ (-scale) = 10 ^ (-scale).toNat / 10 ^ scale.toNat := by
    rw [← zpow_natCast, ← zpow_natCast, ← zpow_sub₀ (by norm_num)]
    congr 1
    omega
  rw [Numeral.value, signed, places, shift, mul_div_assoc]

theorem denotes_chars (unscaled scale : Int) :
    Denotes (chars unscaled scale) (unscaled * 10 ^ (-scale)) := by
  obtain ⟨t, same, negative, places, magnitude⟩ := exists_numeral unscaled scale
  exact ⟨t, same, value_eq negative places magnitude⟩

theorem write?_eq_some_iff {unscaled scale : Int} {cs : List Char} :
    write? unscaled scale = some cs ↔ scale < 65535 ∧ chars unscaled scale = cs := by
  have narrow : scale.toNat + 1 ≤ maxWidth ↔ scale < 65535 := by
    unfold maxWidth
    omega
  rw [write?, Option.ite_none_right_eq_some, narrow, Option.some.injEq]

end DecimalText

namespace TwosComplement

theorem unsigned_append (bytes : List UInt8) (b : UInt8) :
    unsigned (bytes ++ [b]) = 256 * unsigned bytes + b.toNat := by
  rw [unsigned, List.foldl_append, ← unsigned]
  rfl

theorem unsigned_eq_ofDigits (bytes : List UInt8) :
    unsigned bytes = Nat.ofDigits 256 (bytes.reverse.map UInt8.toNat) := by
  induction bytes using List.reverseRecOn with
  | nil => rfl
  | append_singleton bytes b ih =>
    rw [unsigned_append, ih, List.reverse_append, List.reverse_singleton, List.singleton_append,
      List.map_cons, Nat.ofDigits_cons, Nat.add_comm]

theorem unsigned_lt (bytes : List UInt8) : unsigned bytes < 256 ^ bytes.length := by
  induction bytes using List.reverseRecOn with
  | nil => decide
  | append_singleton bytes b ih =>
    have := b.toNat_lt
    rw [unsigned_append, List.length_append, List.length_singleton, Nat.pow_succ]
    omega

theorem unsigned_cons (b : UInt8) (bytes : List UInt8) :
    unsigned (b :: bytes) = b.toNat * 256 ^ bytes.length + unsigned bytes := by
  induction bytes using List.reverseRecOn with
  | nil => rfl
  | append_singleton bytes c ih =>
    rw [← List.cons_append, unsigned_append, unsigned_append, ih, List.length_append,
      List.length_singleton]
    ring

/-- The integer that bytes stand for: of those with their residue, the one nearest to zero. -/
def value (bytes : List UInt8) : Int :=
  Int.bmod (Nat.ofDigits 256 (bytes.reverse.map UInt8.toNat) : Nat) (256 ^ bytes.length)

theorem signed_eq_value (bytes : List UInt8) : signed bytes = value bytes := by
  rw [value, ← unsigned_eq_ofDigits]
  cases bytes with
  | nil => decide
  | cons b rest =>
    have whole := unsigned_lt (b :: rest)
    have part := unsigned_lt rest
    have split := unsigned_cons b rest
    have width : 256 ^ (b :: rest).length = 256 * 256 ^ rest.length := Nat.pow_succ'
    have wide : Int.pow 256 (rest.length + 1) = ((256 ^ (b :: rest).length : Nat) : Int) := by
      push_cast
      rfl
    have sign : 128 ≤ b.toNat ↔ 128 * 256 ^ rest.length ≤ unsigned (b :: rest) := by
      rw [split]
      constructor
      · intro high
        exact (Nat.mul_le_mul_right _ high).trans (Nat.le_add_right _ _)
      · intro high
        by_contra low
        have := Nat.mul_le_mul_right (256 ^ rest.length) (show b.toNat ≤ 127 by omega)
        omega
    rw [signed, isNegative, Int.bmod_def, wide,
      Int.emod_eq_of_lt (Int.natCast_nonneg _) (by exact_mod_cast whole)]
    simp only [decide_eq_true_eq, sign]
    rw [width]
    split <;> split <;> omega

end TwosComplement

end CqlClient
