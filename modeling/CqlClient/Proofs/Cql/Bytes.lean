import CqlClient.Proofs.Cql.Numeral
import Mathlib.Data.List.Induction

/-!
# The shortest bytes of an integer

The bytes that `minimalBytes` writes stand for the integer that they were written for: the 16 bytes
in two's complement do, and leaving out a redundant first byte changes nothing.
-/

namespace CqlClient.TwosComplement

variable {n : Int} {bytes : List UInt8}

theorem length_bigEndian (count n : Nat) : (bigEndian count n).length = count := by
  induction count with
  | zero => rfl
  | succ count ih => rw [bigEndian, List.length_cons, ih]

theorem unsigned_bigEndian (count n : Nat) : unsigned (bigEndian count n) = n % 256 ^ count := by
  induction count with
  | zero => exact (Nat.mod_one n).symm
  | succ count ih =>
    have first : (UInt8.ofNat (n / Nat.pow 256 count)).toNat = n / 256 ^ count % 256 :=
      UInt8.toNat_ofNat'
    rw [bigEndian, unsigned_cons, ih, length_bigEndian, first, Nat.mod_pow_succ]
    ring

theorem signed_bigEndian (inRange : InRange n) :
    signed (bigEndian 16 (n % Int.pow 2 128).toNat) = n := by
  have width : Int.pow 2 128 = ((256 ^ 16 : Nat) : Int) := rfl
  have half : Int.pow 2 127 = ((256 ^ 16 / 2 : Nat) : Int) := rfl
  obtain ⟨least, greatest⟩ := inRange
  have nonneg : 0 ≤ n % Int.pow 2 128 := Int.emod_nonneg n (by decide)
  have residue : ((n % Int.pow 2 128).toNat : Int) = n % ((256 ^ 16 : Nat) : Int) := by
    rw [Int.toNat_of_nonneg nonneg, width]
  rw [signed_eq_value, value, ← unsigned_eq_ofDigits, unsigned_bigEndian, length_bigEndian,
    Int.natCast_emod, residue, Int.emod_emod, Int.emod_bmod]
  apply Int.bmod_eq_of_le <;> omega

/-- A first byte that only repeats the sign of the second adds nothing. -/
theorem signed_of_isRedundant {a b : UInt8} (redundant : isRedundant a b) :
    signed (a :: b :: bytes) = signed (b :: bytes) := by
  have whole : (unsigned (a :: b :: bytes) : Int) =
      a.toNat * 256 ^ (bytes.length + 1) + unsigned (b :: bytes) := by
    rw [unsigned_cons, List.length_cons]
    push_cast
    rfl
  have wider : (256 : Int) ^ (bytes.length + 2) = 256 * 256 ^ (bytes.length + 1) := pow_succ' _ _
  have widest : Int.pow 256 (bytes.length + 2) = 256 ^ (bytes.length + 2) := rfl
  have width : Int.pow 256 (bytes.length + 1) = 256 ^ (bytes.length + 1) := rfl
  rw [isRedundant] at redundant
  rw [signed, signed, List.length_cons, whole, widest, wider, width]
  split at redundant
  · rename_i negative
    have ones : a.toNat = 255 := of_decide_eq_true redundant
    have sign : isNegative a := by simp [isNegative, ones]
    rw [if_pos sign, if_pos negative, ones]
    ring
  · rename_i nonnegative
    have zeros : a.toNat = 0 := of_decide_eq_true redundant
    have sign : ¬ isNegative a := by simp [isNegative, zeros]
    rw [if_neg sign, if_neg nonnegative, zeros]
    ring

theorem signed_trim (bytes : List UInt8) : signed (trim bytes) = signed bytes := by
  fun_induction trim bytes with
  | case1 a b rest redundant ih => rw [ih, signed_of_isRedundant redundant]
  | case2 => rfl
  | case3 => rfl

theorem trim_ne_nil {bytes : List UInt8} (h : bytes ≠ []) : trim bytes ≠ [] := by
  fun_induction trim bytes with
  | case1 a b rest _ ih => exact ih (List.cons_ne_nil _ _)
  | case2 => exact List.cons_ne_nil _ _
  | case3 => exact h

theorem length_trim_le (bytes : List UInt8) : (trim bytes).length ≤ bytes.length := by
  fun_induction trim bytes with
  | case1 a b rest _ ih => exact Nat.le_succ_of_le ih
  | case2 => exact Nat.le_refl _
  | case3 => exact Nat.le_refl _

theorem minimalBytes_ne_nil (n : Int) : minimalBytes n ≠ [] :=
  trim_ne_nil (List.cons_ne_nil _ _)

theorem length_minimalBytes_le (n : Int) : (minimalBytes n).length ≤ 16 :=
  (length_trim_le _).trans_eq (length_bigEndian 16 _)

theorem signed_minimalBytes (inRange : InRange n) : signed (minimalBytes n) = n := by
  rw [minimalBytes, signed_trim, signed_bigEndian inRange]

end CqlClient.TwosComplement
