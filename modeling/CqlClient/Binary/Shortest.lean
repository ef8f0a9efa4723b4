import CqlClient.Binary.Format

/-!
# Shortest decimals

The fewest decimal digits that read back to a binary floating-point value, and the text made of
them. `Decimal` counts in powers of ten; `Magnitude.shortest` searches the grids of 1, 2, … digits
for a point among the reals that round to the value, and takes the nearer of two. `NumberStyle`
holds what a format decides about the text.
-/

namespace CqlClient

structure Decimal where
  digits : Nat
  exponent : Int
  deriving DecidableEq

inductive TieRule where
  | toEven
  | upward
  deriving DecidableEq

def Decimal.fraction (d : Decimal) : Nat × Nat :=
  (d.digits * Nat.pow 10 d.exponent.toNat, Nat.pow 10 (-d.exponent).toNat)

def compareFractions (a b : Nat × Nat) : Ordering := compare (a.1 * b.2) (b.1 * a.2)

/--
The reals that round to a value: from halfway to the value below up to halfway to the value above,
both ends included exactly if the significand is even. The gap below a power of two is half as wide.
-/
structure RoundingInterval where
  low : Magnitude
  high : Magnitude
  closed : Bool

namespace RoundingInterval

def of (x : Magnitude) (narrow : Bool) : RoundingInterval where
  low := ⟨4 * x.significand - (if narrow then 1 else 2), x.exponent - 2⟩
  high := ⟨4 * x.significand + 2, x.exponent - 2⟩
  closed := x.significand % 2 = 0

def contains (i : RoundingInterval) (d : Decimal) : Bool :=
  match compareFractions i.low.fraction d.fraction, compareFractions d.fraction i.high.fraction with
  | .lt, .lt => true
  | .gt, _ => false
  | _, .gt => false
  | _, _ => i.closed

end RoundingInterval

namespace Magnitude

/-- The least `k` with the value below `10 ^ k`. -/
def decimalScale (x : Magnitude) : Int :=
  let estimate := ((x.significand.log2 : Int) + x.exponent) * 30103 / 100000
  let below (k : Int) := compareFractions x.fraction (Decimal.fraction ⟨1, k⟩) = .lt
  if below estimate then estimate
  else if below (estimate + 1) then estimate + 1
  else estimate + 2

/-- The value's neighbours on the grid `10 ^ exponent`: the last point not above it and the next. -/
def gridNeighbours (x : Magnitude) (exponent : Int) : Decimal × Decimal :=
  let (num, den) := x.fraction
  let (unit, parts) := Decimal.fraction ⟨1, exponent⟩
  let q := num * parts / (den * unit)
  (⟨q, exponent⟩, ⟨q + 1, exponent⟩)

def gridChoice (x : Magnitude) (narrow : Bool) (tie : TieRule) (exponent : Int) : Option Decimal :=
  let interval := RoundingInterval.of x narrow
  let (lower, upper) := x.gridNeighbours exponent
  match interval.contains lower, interval.contains upper with
  | false, false => none
  | true, false => some lower
  | false, true => some upper
  | true, true =>
    let middle : Decimal := ⟨10 * lower.digits + 5, exponent - 1⟩
    match compareFractions x.fraction middle.fraction with
    | .lt => some lower
    | .gt => some upper
    | .eq =>
      match tie with
      | .toEven => some (if lower.digits % 2 = 0 then lower else upper)
      | .upward => some upper

def exactDecimal (x : Magnitude) : Decimal :=
  if 0 ≤ x.exponent then ⟨x.significand * Nat.pow 2 x.exponent.toNat, 0⟩
  else ⟨x.significand * Nat.pow 5 (-x.exponent).toNat, x.exponent⟩

def shortest (x : Magnitude) (narrow : Bool) (tie : TieRule) : Decimal :=
  let scale := x.decimalScale
  ((List.range 17).findSome? fun n : Nat => x.gridChoice narrow tie (scale - (n + 1))).getD
    x.exactDecimal

/-- The gap below is half the gap above: a power of two above the smallest normal value. -/
def isNarrow (f : BinaryFormat) (x : Magnitude) : Bool :=
  x.significand = Nat.pow 2 f.fractionBits && f.leastExponent < x.exponent

end Magnitude

def dropTrailingZeros : List Char → Int → List Char × Int
  | '0' :: c :: rest, exponent => dropTrailingZeros (c :: rest) (exponent + 1)
  | digits, exponent => (digits.reverse, exponent)

structure NumberStyle where
  tie : TieRule
  /-- Values from `10 ^ leastPositional` up to `10 ^ mostPositional` are written without an
  exponent. -/
  leastPositional : Int
  mostPositional : Int
  signedExponent : Bool

namespace NumberStyle

def exponentText (style : NumberStyle) (e : Int) : String :=
  "e" ++ (if e < 0 then "-" else if style.signedExponent then "+" else "") ++ toString e.natAbs

/-- The text of digits `ds`, the first of which has weight `10 ^ leading`. -/
def layOut (style : NumberStyle) (ds : List Char) (leading : Int) : String :=
  if style.leastPositional ≤ leading ∧ leading < style.mostPositional then
    if leading < 0 then
      String.ofList ('0' :: '.' :: (List.replicate (-leading - 1).toNat '0' ++ ds))
    else
      let places := leading.toNat + 1
      let integer := ds.take places ++ List.replicate (places - ds.length) '0'
      let fraction := ds.drop places
      String.ofList (integer ++ '.' :: (if fraction.isEmpty then ['0'] else fraction))
  else
    let mantissa := ds.take 1 ++ (if ds.length > 1 then '.' :: ds.drop 1 else [])
    String.ofList mantissa ++ style.exponentText leading

def magnitudeText (style : NumberStyle) (f : BinaryFormat) (x : Magnitude) : String :=
  if x.significand = 0 then "0.0" else
    let d := x.shortest (x.isNarrow f) style.tie
    let (ds, exponent) := dropTrailingZeros (toString d.digits).toList.reverse d.exponent
    style.layOut ds (exponent + ds.length - 1)

def text (style : NumberStyle) (f : BinaryFormat) : FloatReading → String
  | .finite negative x => (if negative then "-" else "") ++ style.magnitudeText f x
  | .infinite negative => if negative then "-inf" else "inf"
  | .nan => "NaN"

end NumberStyle

end CqlClient
