import CqlClient.Json.Basic
import CqlClient.Text.Digits

/-!
# Reading numbers

A number's text is taken apart by `NumberText.scan?` and valued by `NumberText.value?`. A plain
integer in range is exact. Every other number is computed in floating point: the leading digits that
64 bits hold, scaled by a power of ten.
-/

namespace CqlClient

namespace Double

def magnitude (x : Double) : Magnitude :=
  match x.reading with
  | .finite _ m => m
  | _ => ⟨0, 0⟩

def powerOfTen (k : Nat) : Double := ofQuotient false (Nat.pow 10 k) 1

/-- The magnitude times `10 ^ k`, both factors and the product rounded. -/
def timesPowerOfTen (x : Double) (k : Nat) : Double :=
  let (a, b) := x.magnitude.fraction
  let (c, d) := (powerOfTen k).magnitude.fraction
  ofQuotient false (a * c) (b * d)

/-- The magnitude over `10 ^ k`, both operands and the quotient rounded. -/
def overPowerOfTen (x : Double) (k : Nat) : Double :=
  let (a, b) := x.magnitude.fraction
  let (c, d) := (powerOfTen k).magnitude.fraction
  ofQuotient false (a * d) (b * c)

/--
`significand * 10 ^ exponent`, computed with powers of ten up to `10 ^ 308`; `none` if that is too
large for a finite value.
-/
def scaled? (significand : Nat) (exponent : Int) : Option Double :=
  let x := ofQuotient false significand 1
  if significand = 0 ∨ exponent < -616 then some (ofQuotient false 0 1)
  else if exponent < -308 then some ((x.overPowerOfTen 308).overPowerOfTen (-exponent - 308).toNat)
  else if exponent < 0 then some (x.overPowerOfTen (-exponent).toNat)
  else if exponent ≤ 308 then
    let y := x.timesPowerOfTen exponent.toNat
    if y.isFinite then some y else none
  else none

def neg (x : Double) : Double := ⟨x.bits ^^^ 0x8000000000000000⟩

end Double

structure NumberText where
  negative : Bool
  integer : List Char
  fraction : List Char
  exponent : Option Int

namespace NumberText

def spanDigits (cs : List Char) : List Char × List Char :=
  (cs.takeWhile Char.isDigit, cs.dropWhile Char.isDigit)

theorem length_spanDigits_lt {cs ds rest : List Char} {d : Char}
    (h : spanDigits cs = (d :: ds, rest)) : rest.length < cs.length := by
  have whole := congrArg List.length
    (List.takeWhile_append_dropWhile (p := Char.isDigit) (l := cs))
  simp [spanDigits] at h
  simp [h] at whole
  omega

/-- The part before the point: a single zero, or digits that start with another one. -/
def scanInteger? (cs : List Char) : Option (List Char × List Char) :=
  match spanDigits cs with
  | ([], _) => none
  | (d :: ds, rest) => if d = '0' ∧ ds ≠ [] then none else some (d :: ds, rest)

def scanFraction? : List Char → Option (List Char × List Char)
  | '.' :: cs =>
    match spanDigits cs with
    | ([], _) => none
    | (d :: ds, rest) => some (d :: ds, rest)
  | cs => some ([], cs)

def scanExponentDigits? (negative : Bool) (cs : List Char) : Option (Int × List Char) :=
  match spanDigits cs with
  | ([], _) => none
  | (d :: ds, rest) =>
    let n := Nat.ofDigitChars 10 (d :: ds) 0
    some (if negative then -(n : Int) else n, rest)

def scanExponent? : List Char → Option (Option Int × List Char)
  | c :: cs =>
    if c = 'e' ∨ c = 'E' then
      match cs with
      | '-' :: ds => (scanExponentDigits? true ds).map fun (n, rest) => (some n, rest)
      | '+' :: ds => (scanExponentDigits? false ds).map fun (n, rest) => (some n, rest)
      | ds => (scanExponentDigits? false ds).map fun (n, rest) => (some n, rest)
    else some (none, c :: cs)
  | [] => some (none, [])

def scanUnsigned? (negative : Bool) (cs : List Char) : Option (NumberText × List Char) :=
  match scanInteger? cs with
  | none => none
  | some (integer, cs) =>
    match scanFraction? cs with
    | none => none
    | some (fraction, cs) =>
      match scanExponent? cs with
      | none => none
      | some (exponent, cs) => some (⟨negative, integer, fraction, exponent⟩, cs)

def scan? : List Char → Option (NumberText × List Char)
  | '-' :: cs => scanUnsigned? true cs
  | cs => scanUnsigned? false cs

theorem length_scanInteger?_lt {cs ds rest : List Char} (h : scanInteger? cs = some (ds, rest)) :
    rest.length < cs.length := by
  unfold scanInteger? at h
  split at h
  · simp at h
  · rename_i hs
    have := length_spanDigits_lt hs
    grind

theorem length_scanFraction?_le {cs ds rest : List Char} (h : scanFraction? cs = some (ds, rest)) :
    rest.length ≤ cs.length := by
  unfold scanFraction? at h
  split at h
  · split at h
    · simp at h
    · rename_i hs
      have := length_spanDigits_lt hs
      grind
  · grind

theorem length_scanExponentDigits?_lt {negative : Bool} {cs rest : List Char} {n : Int}
    (h : scanExponentDigits? negative cs = some (n, rest)) : rest.length < cs.length := by
  unfold scanExponentDigits? at h
  split at h
  · simp at h
  · rename_i hs
    have := length_spanDigits_lt hs
    grind

theorem length_scanExponent?_le {cs rest : List Char} {n : Option Int}
    (h : scanExponent? cs = some (n, rest)) : rest.length ≤ cs.length := by
  unfold scanExponent? at h
  split at h
  · split at h
    · split at h <;> simp at h <;> obtain ⟨m, h, -⟩ := h <;>
        have := length_scanExponentDigits?_lt h <;> simp <;> omega
    · grind
  · grind

theorem length_scanUnsigned?_lt {negative : Bool} {cs rest : List Char} {t : NumberText}
    (h : scanUnsigned? negative cs = some (t, rest)) : rest.length < cs.length := by
  unfold scanUnsigned? at h
  split at h
  · simp at h
  · rename_i hi
    split at h
    · simp at h
    · rename_i hf
      split at h
      · simp at h
      · rename_i he
        have := length_scanInteger?_lt hi
        have := length_scanFraction?_le hf
        have := length_scanExponent?_le he
        grind

theorem length_scan?_lt {cs rest : List Char} {t : NumberText} (h : scan? cs = some (t, rest)) :
    rest.length < cs.length := by
  unfold scan? at h
  split at h <;> have := length_scanUnsigned?_lt h <;> grind

/-- Appends digits to a number as long as it stays below `2 ^ 64`; digits left over come back. -/
def absorb : Nat → List Char → Nat × List Char
  | n, [] => (n, [])
  | n, c :: cs =>
    let next := Nat.ofDigitChars 10 [c] n
    if next < Nat.pow 2 64 then absorb next cs else (n, c :: cs)

def floatValue? (t : NumberText) : Option Double :=
  let (head, dropped) := absorb 0 t.integer
  let (significand, unused) := absorb head t.fraction
  let places : Int := (dropped.length : Int) - (t.fraction.length - unused.length)
  (Double.scaled? significand (places + t.exponent.getD 0)).map fun x =>
    if t.negative then x.neg else x

def value? (t : NumberText) : Option Json :=
  let n := Nat.ofDigitChars 10 t.integer 0
  let plain := t.fraction.isEmpty && t.exponent.isNone
  if plain && !t.negative && n < Nat.pow 2 64 then some (.int n)
  else if plain && t.negative && n ≠ 0 && n ≤ Nat.pow 2 63 then some (.int (-n))
  else t.floatValue?.map .float

end NumberText

end CqlClient
