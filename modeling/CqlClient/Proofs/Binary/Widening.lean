import CqlClient.Binary.Format
import Mathlib.Algebra.Order.Ring.Int
import Mathlib.Tactic.Ring

/-!
# Widening

The 64-bit format has room for every finite 32-bit value, so that `Single.toDouble` gives a finite
value for these and only for these.
-/

namespace CqlClient

theorem roundHalfEven_le {num den bound : Nat} (less : num < bound * den) :
    roundHalfEven num den ≤ bound := by
  have : num / den < bound := Nat.div_lt_of_lt_mul (Nat.mul_comm bound den ▸ less)
  unfold roundHalfEven
  dsimp only
  split <;> omega

namespace BinaryFormat

/-- The place that is kept lets no more than three further binary digits before it. -/
theorem placeOf_bounds (f : BinaryFormat) (num den : Nat) :
    (num.log2 : Int) - den.log2 - 1 - f.fractionBits ≤ f.placeOf num den ∧
      f.placeOf num den ≤ max f.leastExponent ((num.log2 : Int) - den.log2 - f.fractionBits) := by
  unfold placeOf
  dsimp only
  split <;> omega

theorem nearest_binary64_lt {num den : Nat} (positive : 0 < den) (less : num < 2 ^ 128 * den) :
    binary64.nearest num den < binary64.infinity := by
  by_cases zero : num = 0
  · rw [nearest, if_pos zero]
    decide
  have numLow : 2 ^ num.log2 ≤ num := Nat.log2_self_le zero
  have numHigh : num < 2 ^ (num.log2 + 1) := Nat.lt_log2_self
  have denLow : 2 ^ den.log2 ≤ den := Nat.log2_self_le (by omega)
  have denHigh : den < 2 ^ (den.log2 + 1) := Nat.lt_log2_self
  have magnitudes : num.log2 < 129 + den.log2 := by
    refine (Nat.pow_lt_pow_iff_right (a := 2) (by decide)).1 ?_
    calc 2 ^ num.log2 ≤ num := numLow
      _ < 2 ^ 128 * den := less
      _ < 2 ^ 128 * 2 ^ (den.log2 + 1) := Nat.mul_lt_mul_of_pos_left denHigh (by decide)
      _ = 2 ^ (129 + den.log2) := by rw [← Nat.pow_add]; congr 1; omega
  obtain ⟨above, below⟩ := binary64.placeOf_bounds num den
  have digits : (binary64.fractionBits : Int) = 52 := rfl
  have least : binary64.leastExponent = -1074 := rfl
  rw [nearest, if_neg zero]
  dsimp only
  generalize binary64.placeOf num den = e at *
  have rounded : roundHalfEven (num * Nat.pow 2 (-e).toNat) (den * Nat.pow 2 e.toNat) ≤ 2 ^ 54 := by
    refine roundHalfEven_le ?_
    calc num * 2 ^ (-e).toNat < 2 ^ (num.log2 + 1) * 2 ^ (-e).toNat :=
          Nat.mul_lt_mul_of_pos_right numHigh (Nat.pow_pos (by decide))
      _ = 2 ^ (num.log2 + 1 + (-e).toNat) := (Nat.pow_add ..).symm
      _ ≤ 2 ^ (54 + (den.log2 + e.toNat)) := Nat.pow_le_pow_right (by decide) (by omega)
      _ = 2 ^ 54 * (2 ^ den.log2 * 2 ^ e.toNat) := by rw [Nat.pow_add, Nat.pow_add]
      _ ≤ 2 ^ 54 * (den * 2 ^ e.toNat) := Nat.mul_le_mul_left _ (Nat.mul_le_mul_right _ denLow)
  have steps : (e - binary64.leastExponent).toNat ≤ 1150 := by omega
  have weight : Nat.pow 2 binary64.fractionBits = 2 ^ 52 := rfl
  have limit : binary64.infinity = 2047 * 2 ^ 52 := rfl
  rw [weight, limit]
  refine (Nat.min_le_right _ _).trans_lt ?_
  omega

end BinaryFormat

/-- A value with digits, neither infinite nor a mark of something else. -/
def FloatReading.IsFinite : FloatReading → Prop
  | .finite _ _ => True
  | _ => False

theorem BinaryFormat.isFinite_read_iff {f : BinaryFormat} {bits : Nat} : (f.read bits).IsFinite ↔
    bits / Nat.pow 2 f.fractionBits % Nat.pow 2 f.exponentBits ≠ Nat.pow 2 f.exponentBits - 1 := by
  unfold read
  dsimp only
  split
  · rename_i field
    split <;> exact iff_of_false id fun other => other field
  · rename_i field
    split <;> exact iff_of_true trivial field

theorem BinaryFormat.read_binary32_eq_finite {bits : Nat} {negative : Bool} {m : Magnitude}
    (h : binary32.read bits = .finite negative m) :
    m.significand < 2 ^ 24 ∧ m.exponent ≤ 104 := by
  have weight : Nat.pow 2 binary32.fractionBits = 2 ^ 23 := rfl
  have fields : Nat.pow 2 binary32.exponentBits = 256 := rfl
  have least : binary32.leastExponent = -149 := rfl
  unfold read at h
  dsimp only at h
  rw [weight, fields, least] at h
  split at h
  · split at h <;> cases h
  · split at h
    · cases h
      dsimp only
      omega
    · cases h
      dsimp only
      omega

namespace Double

theorem isFinite_iff {x : Double} : x.isFinite ↔ x.reading.IsFinite := by
  unfold isFinite
  cases x.reading <;> simp [FloatReading.IsFinite]

theorem isFinite_ofQuotient {negative : Bool} {num den : Nat} (positive : 0 < den)
    (less : num < 2 ^ 128 * den) : (ofQuotient negative num den).reading.IsFinite := by
  have small := BinaryFormat.nearest_binary64_lt positive less
  have limit : BinaryFormat.binary64.infinity = 2047 * 2 ^ 52 := rfl
  have sign : (if negative then BinaryFormat.binary64.signWeight else 0) = 0 ∨
      (if negative then BinaryFormat.binary64.signWeight else 0) = 2 ^ 63 := by
    cases negative
    · exact .inl rfl
    · exact .inr rfl
  have weight : Nat.pow 2 BinaryFormat.binary64.fractionBits = 2 ^ 52 := rfl
  have fields : Nat.pow 2 BinaryFormat.binary64.exponentBits = 2048 := rfl
  rw [reading, ofQuotient, BinaryFormat.isFinite_read_iff, weight, fields,
    BinaryFormat.nearestSigned]
  generalize BinaryFormat.binary64.nearest num den = n at *
  generalize (if negative then BinaryFormat.binary64.signWeight else 0) = s at *
  have whole : (UInt64.ofNat (s + n)).toNat = s + n :=
    UInt64.toNat_ofNat_of_lt' (show s + n < 2 ^ 64 by omega)
  rw [whole]
  omega

end Double

theorem Single.isFinite_toDouble {x : Single} : x.toDouble.isFinite ↔ x.reading.IsFinite := by
  rw [Double.isFinite_iff, toDouble]
  cases reading : x.reading with
  | finite negative m =>
    obtain ⟨significand, exponent⟩ := BinaryFormat.read_binary32_eq_finite reading
    refine iff_of_true (Double.isFinite_ofQuotient (Nat.pow_pos (by decide)) ?_) trivial
    calc m.significand * 2 ^ m.exponent.toNat < 2 ^ 24 * 2 ^ m.exponent.toNat :=
          Nat.mul_lt_mul_of_pos_right significand (Nat.pow_pos (by decide))
      _ ≤ 2 ^ 24 * 2 ^ 104 := Nat.mul_le_mul_left _ (Nat.pow_le_pow_right (by decide) (by omega))
      _ = 2 ^ 128 * 1 := by decide
      _ ≤ 2 ^ 128 * 2 ^ (-m.exponent).toNat := Nat.mul_le_mul_left _ (Nat.pow_pos (by decide))
  | infinite negative =>
    refine iff_of_false ?_ id
    cases negative <;> (rw [Double.reading, BinaryFormat.isFinite_read_iff]; decide)
  | nan =>
    refine iff_of_false ?_ id
    rw [Double.reading, BinaryFormat.isFinite_read_iff]
    decide

end CqlClient
