import CqlClient.Proofs.Cql.Bytes

/-!
# Canonical bytes

Bytes in front of others that only repeat their sign stand for nothing. By `bytes_canonical` an
integer of 128 bits is written without such bytes, which is the shortest that it can be written, and
what up to 16 bytes stand for is written as these bytes without their redundant ones.
-/

namespace CqlClient.TwosComplement

variable {n : Int} {b : UInt8} {bytes short : List UInt8}

/-! ## Redundant bytes -/

/-- The byte that repeats the sign of the bytes behind it. -/
def signByte : List UInt8 → UInt8
  | [] => 0
  | b :: _ => if b < 128 then 0 else 255

/-- The first byte is needed: it is the only one, or it does not just repeat the sign of the rest. -/
def IsCanonical : List UInt8 → Prop
  | a :: b :: rest => a ≠ signByte (b :: rest)
  | _ => True

instance : DecidablePred IsCanonical
  | [] => .isTrue trivial
  | [_] => .isTrue trivial
  | a :: b :: rest => inferInstanceAs (Decidable (a ≠ signByte (b :: rest)))

/-- What is left of bytes without their redundant leading sign bytes. -/
structure Stripped (bytes short : List UInt8) : Prop where
  ne_nil : short ≠ []
  canonical : IsCanonical short
  padded : ∃ count, bytes = List.replicate count (signByte short) ++ short

theorem isRedundant_iff {a : UInt8} (bytes : List UInt8) :
    isRedundant a b ↔ a = signByte (b :: bytes) := by
  have zero : a.toNat = 0 ↔ a = 0 := UInt8.toNat_inj (b := 0)
  have ones : a.toNat = 255 ↔ a = 255 := UInt8.toNat_inj (b := 255)
  have small : b < 128 ↔ b.toNat < 128 := UInt8.lt_iff_toNat_lt
  rw [isRedundant, isNegative, signByte]
  by_cases nonnegative : b.toNat < 128
  · simp [small, nonnegative, zero]
  · simp [small, nonnegative, show 128 ≤ b.toNat by omega, ones]

theorem signByte_cons_signByte (bytes rest : List UInt8) :
    signByte (signByte bytes :: rest) = signByte bytes := by
  cases bytes with
  | nil => rfl
  | cons b bytes =>
    simp only [signByte]
    split <;> rfl

theorem signByte_padded (count : Nat) :
    signByte (List.replicate count (signByte bytes) ++ bytes) = signByte bytes := by
  cases count with
  | zero => rfl
  | succ count => exact signByte_cons_signByte bytes _

theorem signed_padded (filled : bytes ≠ []) (count : Nat) :
    signed (List.replicate count (signByte bytes) ++ bytes) = signed bytes := by
  induction count with
  | zero => rfl
  | succ count ih =>
    obtain ⟨b, rest, split⟩ := List.exists_cons_of_ne_nil
      (List.append_ne_nil_of_right_ne_nil (List.replicate count (signByte bytes)) filled)
    have redundant : isRedundant (signByte bytes) b := by
      rw [isRedundant_iff rest, ← split, signByte_padded]
    rw [List.replicate_succ, List.cons_append, split, signed_of_isRedundant redundant, ← split, ih]

theorem trim_padded (filled : bytes ≠ []) (count : Nat) :
    trim (List.replicate count (signByte bytes) ++ bytes) = trim bytes := by
  induction count with
  | zero => rfl
  | succ count ih =>
    obtain ⟨b, rest, split⟩ := List.exists_cons_of_ne_nil
      (List.append_ne_nil_of_right_ne_nil (List.replicate count (signByte bytes)) filled)
    have redundant : isRedundant (signByte bytes) b := by
      rw [isRedundant_iff rest, ← split, signByte_padded]
    rw [List.replicate_succ, List.cons_append, split, trim, if_pos redundant, ← split, ih]

theorem trim_of_isCanonical (canonical : IsCanonical bytes) : trim bytes = bytes := by
  fun_cases trim bytes with
  | case1 a b rest redundant => exact absurd ((isRedundant_iff _).1 redundant) canonical
  | case2 => rfl
  | case3 => rfl

theorem stripped_trim (filled : bytes ≠ []) : Stripped bytes (trim bytes) := by
  fun_induction trim bytes with
  | case1 a b rest redundant ih =>
    obtain ⟨ne_nil, canonical, count, padded⟩ := ih (List.cons_ne_nil b rest)
    refine ⟨ne_nil, canonical, count + 1, ?_⟩
    have sign : signByte (b :: rest) = signByte (trim (b :: rest)) := by
      rw [padded, signByte_padded, ← padded]
    rw [List.replicate_succ, List.cons_append, ← padded, ← sign, ← (isRedundant_iff _).1 redundant]
  | case2 a b rest needed =>
    exact ⟨filled, fun same => needed ((isRedundant_iff _).2 same), 0, rfl⟩
  | case3 bytes single =>
    refine ⟨filled, ?_, 0, rfl⟩
    unfold IsCanonical
    split
    · rename_i a b rest
      exact absurd rfl (single a b rest)
    · trivial

/-! ## Reading and writing -/

/-- Higher digits do not show in the last bytes of a number. -/
theorem bigEndian_add_mul (count high n : Nat) :
    bigEndian count (high * 256 ^ count + n) = bigEndian count n := by
  induction count generalizing high with
  | zero => rfl
  | succ count ih =>
    have regroup : high * 256 ^ (count + 1) = high * 256 * 256 ^ count := by ring
    have digit : UInt8.ofNat ((high * 256 * 256 ^ count + n) / 256 ^ count) =
        UInt8.ofNat (n / 256 ^ count) := by
      rw [← UInt8.toNat_inj, UInt8.toNat_ofNat', UInt8.toNat_ofNat', Nat.add_comm,
        Nat.add_mul_div_right _ _ (Nat.pow_pos (by decide))]
      exact Nat.add_mul_mod_self_right ..
    rw [bigEndian, bigEndian, regroup, ih]
    exact congrArg (· :: _) digit

theorem bigEndian_unsigned (bytes : List UInt8) : bigEndian bytes.length (unsigned bytes) = bytes := by
  induction bytes with
  | nil => rfl
  | cons b rest ih =>
    have first : (b.toNat * 256 ^ rest.length + unsigned rest) / 256 ^ rest.length = b.toNat := by
      rw [Nat.add_comm, Nat.add_mul_div_right _ _ (Nat.pow_pos (by decide)),
        Nat.div_eq_of_lt (unsigned_lt rest), Nat.zero_add]
    rw [List.length_cons, unsigned_cons, bigEndian, bigEndian_add_mul, ih]
    refine congrArg (· :: rest) ?_
    exact (congrArg UInt8.ofNat first).trans UInt8.ofNat_toNat

theorem signed_emod (bytes : List UInt8) :
    signed bytes % ((256 ^ bytes.length : Nat) : Int) = unsigned bytes := by
  rw [signed_eq_value, value, ← unsigned_eq_ofDigits, Int.bmod_emod]
  exact Int.emod_eq_of_lt (Int.natCast_nonneg _) (by exact_mod_cast unsigned_lt bytes)

/-- Bytes with their sign repeated in front of them, so that they are 16. -/
def extended (bytes : List UInt8) : List UInt8 :=
  List.replicate (16 - bytes.length) (signByte bytes) ++ bytes

theorem length_extended (fits : bytes.length ≤ 16) : (extended bytes).length = 16 := by
  rw [extended, List.length_append, List.length_replicate]
  omega

theorem signed_extended (filled : bytes ≠ []) : signed (extended bytes) = signed bytes :=
  signed_padded filled _

theorem bigEndian_signed (filled : bytes ≠ []) (fits : bytes.length ≤ 16) :
    bigEndian 16 (signed bytes % Int.pow 2 128).toNat = extended bytes := by
  have width := length_extended fits
  have modulus : Int.pow 2 128 = ((256 ^ (extended bytes).length : Nat) : Int) := by
    rw [width]
    rfl
  have whole := bigEndian_unsigned (extended bytes)
  rw [← signed_extended filled, modulus, signed_emod, Int.toNat_natCast]
  rwa [width] at whole

theorem minimalBytes_signed (filled : bytes ≠ []) (fits : bytes.length ≤ 16) :
    minimalBytes (signed bytes) = trim bytes := by
  rw [minimalBytes, bigEndian_signed filled fits, extended, trim_padded filled]

theorem ofBytes?_eq_some_iff :
    ofBytes? bytes = some n ↔ bytes ≠ [] ∧ bytes.length ≤ 16 ∧ signed bytes = n := by
  rw [ofBytes?]
  split
  · rename_i refused
    rcases refused with rfl | long
    · simp
    · simp [Nat.not_le.2 long]
  · rename_i accepted
    obtain ⟨filled, fits⟩ := not_or.1 accepted
    simp [filled, Nat.not_lt.1 fits]

theorem stripped_iff (filled : bytes ≠ []) (fits : bytes.length ≤ 16) :
    Stripped bytes short ↔ short = minimalBytes (signed bytes) := by
  constructor
  · rintro ⟨ne_nil, canonical, count, padded⟩
    have within : short.length ≤ 16 := by
      rw [padded, List.length_append] at fits
      omega
    rw [padded, signed_padded ne_nil, minimalBytes_signed ne_nil within,
      trim_of_isCanonical canonical]
  · rintro rfl
    rw [minimalBytes_signed filled fits]
    exact stripped_trim filled

theorem inRange_signed (filled : bytes ≠ []) (fits : bytes.length ≤ 16) : InRange (signed bytes) := by
  have half : Int.pow 2 127 = ((256 ^ 16 / 2 : Nat) : Int) := rfl
  have read : signed bytes = Int.bmod (unsigned (extended bytes) : Int) (256 ^ 16) := by
    rw [← signed_extended filled, signed_eq_value, value, ← unsigned_eq_ofDigits,
      length_extended fits]
  have least := Int.le_bmod (x := unsigned (extended bytes)) (m := 256 ^ 16) (by decide)
  have greatest := Int.bmod_lt (x := unsigned (extended bytes)) (m := 256 ^ 16) (by decide)
  rw [InRange, half, read]
  omega

/-- An integer of 128 bits has from 1 to 16 bytes, which are read back, and no fewer bytes are read
as it. From 1 to 16 bytes are read as their value in two's complement, which is written as these
bytes without redundant sign bytes; no other bytes are read. -/
theorem bytes_canonical :
    (∀ n, InRange n → (1 ≤ (minimalBytes n).length ∧ (minimalBytes n).length ≤ 16) ∧
      ofBytes? (minimalBytes n) = some n ∧
      ∀ bytes, ofBytes? bytes = some n → (minimalBytes n).length ≤ bytes.length) ∧
    ∀ bytes : List UInt8,
      (1 ≤ bytes.length ∧ bytes.length ≤ 16 →
        ofBytes? bytes = some (value bytes) ∧ InRange (value bytes) ∧
        (∀ short, Stripped bytes short ↔ short = minimalBytes (value bytes)) ∧
        (IsCanonical bytes → minimalBytes (value bytes) = bytes)) ∧
      (¬ (1 ≤ bytes.length ∧ bytes.length ≤ 16) → ofBytes? bytes = none) := by
  refine ⟨fun n inRange => ?_, fun bytes => ⟨fun ⟨long, fits⟩ => ?_, fun outside => ?_⟩⟩
  · have filled := minimalBytes_ne_nil n
    have fits := length_minimalBytes_le n
    refine ⟨⟨List.length_pos_iff.2 filled, fits⟩,
      ofBytes?_eq_some_iff.2 ⟨filled, fits, signed_minimalBytes inRange⟩, fun bytes read => ?_⟩
    obtain ⟨given, within, rfl⟩ := ofBytes?_eq_some_iff.1 read
    rw [minimalBytes_signed given within]
    exact length_trim_le bytes
  · have filled := List.length_pos_iff.1 long
    rw [← signed_eq_value]
    refine ⟨ofBytes?_eq_some_iff.2 ⟨filled, fits, rfl⟩, inRange_signed filled fits,
      fun short => stripped_iff filled fits, fun canonical => ?_⟩
    rw [minimalBytes_signed filled fits, trim_of_isCanonical canonical]
  · rw [← Option.not_isSome_iff_eq_none, Option.isSome_iff_exists]
    rintro ⟨n, read⟩
    obtain ⟨filled, fits, -⟩ := ofBytes?_eq_some_iff.1 read
    exact outside ⟨List.length_pos_iff.2 filled, fits⟩

/-- The greatest negative integer that takes two bytes, also read from one byte more. -/
theorem bytes_of_minus_129_canonical :
    InRange (-129) ∧ ofBytes? (minimalBytes (-129)) = some (-129) ∧
      Stripped [0xff, 0xff, 0x7f] (minimalBytes (value [0xff, 0xff, 0x7f])) ∧
      IsCanonical [0xff, 0x7f] ∧ minimalBytes (value [0xff, 0x7f]) = [0xff, 0x7f] ∧
      ofBytes? [] = none := by
  obtain ⟨written, read⟩ := bytes_canonical
  have inRange : InRange (-129) := by decide
  have canonical : IsCanonical [0xff, 0x7f] := by decide
  refine ⟨inRange, (written _ inRange).2.1, ?_, canonical, ?_, (read []).2 (by decide)⟩
  · exact (((read [0xff, 0xff, 0x7f]).1 (by decide)).2.2.1 _).2 rfl
  · exact ((read [0xff, 0x7f]).1 (by decide)).2.2.2 canonical

end CqlClient.TwosComplement
