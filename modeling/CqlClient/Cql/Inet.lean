import CqlClient.Text.Digits

/-!
# Internet addresses

IPv4 addresses in dotted form, and IPv6 addresses in groups of hexadecimal digits. The first longest
run of two or more zero groups is written as a double colon.
-/

namespace CqlClient

inductive InetAddress where
  | v4 (a b c d : Fin 256)
  | v6 (groups : List (Fin 65536)) (length_groups : groups.length = 8)
  deriving DecidableEq

namespace InetAddress

/-! ## Writing -/

def dottedChars (a b c d : Fin 256) : List Char :=
  Nat.toDigits 10 a ++ '.' :: (Nat.toDigits 10 b ++ '.' ::
    (Nat.toDigits 10 c ++ '.' :: Nat.toDigits 10 d))

def groupChars : List (Fin 65536) → List Char
  | [] => []
  | [g] => Nat.toDigits 16 g
  | g :: h :: rest => Nat.toDigits 16 g ++ ':' :: groupChars (h :: rest)

def leadingZeros (groups : List (Fin 65536)) : Nat := (groups.takeWhile (· = 0)).length

def longestRun : List (Fin 65536) → Nat
  | [] => 0
  | g :: rest => max (leadingZeros (g :: rest)) (longestRun rest)

/-- The groups before the first run of the given length, and those after that run. -/
def splitAtRun (length : Nat) : List (Fin 65536) → List (Fin 65536) × List (Fin 65536)
  | [] => ([], [])
  | g :: rest =>
    if leadingZeros (g :: rest) = length then ([], (g :: rest).drop length)
    else
      let (before, after) := splitAtRun length rest
      (g :: before, after)

def octet (n : Nat) : Fin 256 := ⟨n % 256, Nat.mod_lt _ (by decide)⟩

/-- The text of eight groups; an IPv4 address mapped into IPv6 keeps its dots. -/
def v6Chars (groups : List (Fin 65536)) : List Char :=
  match groups with
  | [0, 0, 0, 0, 0, 65535, g, h] =>
    [':', ':', 'f', 'f', 'f', 'f', ':'] ++
      dottedChars (octet (g / 256)) (octet g) (octet (h / 256)) (octet h)
  | groups =>
    let run := longestRun groups
    if 1 < run then
      let (before, after) := splitAtRun run groups
      groupChars before ++ ':' :: ':' :: groupChars after
    else groupChars groups

def chars : InetAddress → List Char
  | .v4 a b c d => dottedChars a b c d
  | .v6 groups _ => v6Chars groups

/-! ## Reading -/

def splitBy (separator : Char) : List Char → List (List Char)
  | [] => [[]]
  | c :: rest =>
    if c = separator then [] :: splitBy separator rest
    else
      match splitBy separator rest with
      | [] => [[c]]
      | part :: parts => (c :: part) :: parts

def octet? (cs : List Char) : Option (Fin 256) :=
  if cs.length ≤ 3 ∧ (cs.length = 1 ∨ cs.head? ≠ some '0') then
    (Text.natOfDigits? cs).bind fun n => if h : n < 256 then some ⟨n, h⟩ else none
  else none

def dotted? (cs : List Char) : Option (Fin 256 × Fin 256 × Fin 256 × Fin 256) :=
  match splitBy '.' cs with
  | [a, b, c, d] => do some (← octet? a, ← octet? b, ← octet? c, ← octet? d)
  | _ => none

def group? (cs : List Char) : Option (Fin 65536) :=
  if cs.length ≤ 4 then
    (Text.natOfHex? cs).bind fun n => if h : n < 65536 then some ⟨n, h⟩ else none
  else none

def groupOf (a b : Fin 256) : Fin 65536 := ⟨a * 256 + b, by omega⟩

/-- Reads groups; the last part may be an IPv4 address, which makes two of them. -/
def groups? (dottedEnd : Bool) : List (List Char) → Option (List (Fin 65536))
  | [] => some []
  | [part] =>
    match group? part with
    | some g => some [g]
    | none =>
      if dottedEnd then
        (dotted? part).map fun (a, b, c, d) => [groupOf a b, groupOf c d]
      else none
  | part :: rest =>
    match group? part, groups? dottedEnd rest with
    | some g, some gs => some (g :: gs)
    | _, _ => none

def groupList? (dottedEnd : Bool) (cs : List Char) : Option (List (Fin 65536)) :=
  if cs = [] then some [] else groups? dottedEnd (splitBy ':' cs)

def splitDoubleColon? : List Char → Option (List Char × List Char)
  | [] => none
  | ':' :: ':' :: rest => some ([], rest)
  | c :: rest => (splitDoubleColon? rest).map fun (before, after) => (c :: before, after)

/-- Reads eight groups; a double colon stands for one or more zero groups. -/
def v6? (cs : List Char) : Option InetAddress :=
  let groups := match splitDoubleColon? cs with
    | none => groupList? true cs
    | some (before, after) => do
      let head ← groupList? false before
      let tail ← groupList? true after
      if head.length + tail.length < 8 then
        some (head ++ List.replicate (8 - head.length - tail.length) 0 ++ tail)
      else none
  match groups with
  | none => none
  | some gs => if h : gs.length = 8 then some (.v6 gs h) else none

def ofChars? (cs : List Char) : Option InetAddress :=
  match dotted? cs with
  | some (a, b, c, d) => some (.v4 a b c d)
  | none => v6? cs

end InetAddress

end CqlClient
