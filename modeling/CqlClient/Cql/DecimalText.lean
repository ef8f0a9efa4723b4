import CqlClient.Cql.TwosComplement
import CqlClient.Text.Digits

/-!
# Decimal text

Decimals are an unscaled integer of 128 bits and a scale, the number of digits after the point.
-/

namespace CqlClient.DecimalText

/-- The widest field that a text can be padded to. -/
def maxWidth : Nat := 65535

/-- The text of `unscaled / 10 ^ scale`; a scale of zero or less gives no point. -/
def chars (unscaled scale : Int) : List Char :=
  if scale ≤ 0 then Text.intChars unscaled ++ List.replicate scale.natAbs '0'
  else
    let places := scale.toNat
    let ds := Nat.toDigits 10 unscaled.natAbs
    let ds := List.replicate (places + 1 - ds.length) '0' ++ ds
    (if unscaled < 0 then ['-'] else []) ++ ds.take (ds.length - places) ++
      '.' :: ds.drop (ds.length - places)

/-- Writes a decimal. The digits are padded to one more than the places; there is `none` if that is
too wide, and the program stops. -/
def write? (unscaled scale : Int) : Option (List Char) :=
  if scale.toNat + 1 ≤ maxWidth then some (chars unscaled scale) else none

def splitPoint : List Char → List Char × List Char
  | [] => ([], [])
  | c :: rest =>
    if c = '.' then ([], rest)
    else
      let (before, after) := splitPoint rest
      (c :: before, after)

/-- Reads a decimal: its unscaled integer is what remains without the point, and its scale is the
length of what follows the point. -/
def read? (cs : List Char) : Option (Int × Int) :=
  let (integer, fraction) := splitPoint cs
  match Text.intOfDigits? (integer ++ fraction) with
  | none => none
  | some n =>
    if TwosComplement.InRange n ∧ fraction.length < Nat.pow 2 31 then some (n, fraction.length) else none

end CqlClient.DecimalText
