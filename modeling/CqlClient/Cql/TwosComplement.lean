/-!
# Two's complement

Signed integers as big-endian bytes. `minimalBytes` writes an integer of 128 bits without redundant
sign bytes, and `ofBytes?` reads up to 16 bytes.
-/

namespace CqlClient.TwosComplement

def InRange (n : Int) : Prop := -Int.pow 2 127 ≤ n ∧ n < Int.pow 2 127

instance (n : Int) : Decidable (InRange n) := inferInstanceAs (Decidable (_ ∧ _))

/-- The last `count` bytes of a natural number, the most significant first. -/
def bigEndian : (count : Nat) → Nat → List UInt8
  | 0, _ => []
  | count + 1, n => UInt8.ofNat (n / Nat.pow 256 count) :: bigEndian count n

def unsigned (bytes : List UInt8) : Nat := bytes.foldl (fun n b => 256 * n + b.toNat) 0

def isNegative (b : UInt8) : Bool := 128 ≤ b.toNat

/-- A first byte that only repeats the sign of the second. -/
def isRedundant (first second : UInt8) : Bool :=
  if isNegative second then first.toNat = 255 else first.toNat = 0

def trim : List UInt8 → List UInt8
  | a :: b :: rest => if isRedundant a b then trim (b :: rest) else a :: b :: rest
  | bytes => bytes

def minimalBytes (n : Int) : List UInt8 := trim (bigEndian 16 (n % Int.pow 2 128).toNat)

def signed : List UInt8 → Int
  | [] => 0
  | b :: rest =>
    let n := unsigned (b :: rest)
    if isNegative b then (n : Int) - Int.pow 256 (rest.length + 1) else n

/-- The integer of 1 to 16 bytes. -/
def ofBytes? (bytes : List UInt8) : Option Int :=
  if bytes = [] ∨ 16 < bytes.length then none else some (signed bytes)

end CqlClient.TwosComplement
