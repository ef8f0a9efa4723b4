/-!
# Binary floating point

The two interchange formats that CQL stores: `Double` (64 bits) and `Single` (32 bits), held as
their bits. Values enter through `BinaryFormat.nearest`, which rounds a quotient of naturals to the
nearest representable value, a tie going to the even significand. All arithmetic is on naturals.
-/

namespace CqlClient

/-- A binary interchange format: a sign bit, then the exponent field, then the fraction field. -/
structure BinaryFormat where
  exponentBits : Nat
  fractionBits : Nat
  deriving DecidableEq

namespace BinaryFormat

def binary64 : BinaryFormat := ⟨11, 52⟩

def binary32 : BinaryFormat := ⟨8, 23⟩

variable (f : BinaryFormat)

/-- The exponent of the last place of the smallest values. -/
def leastExponent : Int := 2 - Int.pow 2 (f.exponentBits - 1) - f.fractionBits

def infinity : Nat := (Nat.pow 2 f.exponentBits - 1) * Nat.pow 2 f.fractionBits

def signWeight : Nat := Nat.pow 2 (f.exponentBits + f.fractionBits)

end BinaryFormat

/-- A non-negative finite value `significand * 2 ^ exponent`. -/
structure Magnitude where
  significand : Nat
  exponent : Int
  deriving DecidableEq

inductive FloatReading where
  | finite (negative : Bool) (magnitude : Magnitude)
  | infinite (negative : Bool)
  | nan
  deriving DecidableEq

def roundHalfEven (num den : Nat) : Nat :=
  let q := num / den
  let r := num % den
  if 2 * r > den ∨ (2 * r = den ∧ q % 2 = 1) then q + 1 else q

def Magnitude.fraction (x : Magnitude) : Nat × Nat :=
  (x.significand * Nat.pow 2 x.exponent.toNat, Nat.pow 2 (-x.exponent).toNat)

namespace BinaryFormat

variable (f : BinaryFormat)

/-- The exponent of the last place that the format keeps of `num / den`. -/
def placeOf (num den : Nat) : Int :=
  let k : Int := (num.log2 : Int) - den.log2
  let reaches := num * Nat.pow 2 (-k).toNat ≥ den * Nat.pow 2 k.toNat
  max f.leastExponent ((if reaches then k else k - 1) - f.fractionBits)

/--
The bits of the non-negative value nearest to `num / den`; infinity from halfway above the largest
finite value on. A significand that rounds up to the next power of two carries into the exponent
field.
-/
def nearest (num den : Nat) : Nat :=
  if num = 0 then 0 else
    let e := f.placeOf num den
    let m := roundHalfEven (num * Nat.pow 2 (-e).toNat) (den * Nat.pow 2 e.toNat)
    min f.infinity ((e - f.leastExponent).toNat * Nat.pow 2 f.fractionBits + m)

def nearestSigned (negative : Bool) (num den : Nat) : Nat :=
  (if negative then f.signWeight else 0) + f.nearest num den

def read (bits : Nat) : FloatReading :=
  let negative := bits / f.signWeight % 2 = 1
  let field := bits / Nat.pow 2 f.fractionBits % Nat.pow 2 f.exponentBits
  let fraction := bits % Nat.pow 2 f.fractionBits
  if field = Nat.pow 2 f.exponentBits - 1 then
    if fraction = 0 then .infinite negative else .nan
  else if field = 0 then .finite negative ⟨fraction, f.leastExponent⟩
  else .finite negative ⟨Nat.pow 2 f.fractionBits + fraction, f.leastExponent + (field - 1)⟩

end BinaryFormat

structure Double where
  bits : UInt64
  deriving DecidableEq, Repr

structure Single where
  bits : UInt32
  deriving DecidableEq, Repr

namespace Double

def reading (x : Double) : FloatReading := BinaryFormat.binary64.read x.bits.toNat

def ofQuotient (negative : Bool) (num den : Nat) : Double :=
  ⟨.ofNat (BinaryFormat.binary64.nearestSigned negative num den)⟩

def ofInt (n : Int) : Double := ofQuotient (n < 0) n.natAbs 1

def isFinite (x : Double) : Bool :=
  match x.reading with
  | .finite _ _ => true
  | _ => false

def toSingle (x : Double) : Single :=
  match x.reading with
  | .finite negative m =>
    let (num, den) := m.fraction
    ⟨.ofNat (BinaryFormat.binary32.nearestSigned negative num den)⟩
  | .infinite negative =>
    ⟨.ofNat ((if negative then BinaryFormat.binary32.signWeight else 0) +
      BinaryFormat.binary32.infinity)⟩
  | .nan => ⟨.ofNat (BinaryFormat.binary32.infinity + Nat.pow 2 22)⟩

end Double

namespace Single

def reading (x : Single) : FloatReading := BinaryFormat.binary32.read x.bits.toNat

def toDouble (x : Single) : Double :=
  match x.reading with
  | .finite negative m =>
    let (num, den) := m.fraction
    Double.ofQuotient negative num den
  | .infinite negative =>
    ⟨.ofNat ((if negative then BinaryFormat.binary64.signWeight else 0) +
      BinaryFormat.binary64.infinity)⟩
  | .nan => ⟨.ofNat (BinaryFormat.binary64.infinity + Nat.pow 2 51)⟩

end Single

end CqlClient
