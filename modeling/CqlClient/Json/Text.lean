import CqlClient.Binary.Shortest
import CqlClient.Json.Basic
import CqlClient.Text.Digits

/-!
# Compact JSON text

A value written without spaces. `Json.chars` prints members in the order in which they stand, so
that a value with a prescribed member order keeps it.
-/

namespace CqlClient.Json

/--
Floats have the fewest digits that read back, positionally from 0.00001 up to below 10^16, else with
a signed exponent.
-/
def numberStyle : NumberStyle where
  tie := .toEven
  leastPositional := -5
  mostPositional := 16
  signedExponent := true

/-- The text of a float; one that is not finite has none of its own and is written as null. -/
def floatText (x : Double) : String :=
  if x.isFinite then numberStyle.text .binary64 x.reading else "null"

/-- A character inside a string: only quotes, backslashes and controls are escaped. -/
def escapedChar (c : Char) : List Char :=
  if c = '"' then ['\\', '"']
  else if c = '\\' then ['\\', '\\']
  else if c = '\x08' then ['\\', 'b']
  else if c = '\x0c' then ['\\', 'f']
  else if c = '\n' then ['\\', 'n']
  else if c = '\r' then ['\\', 'r']
  else if c = '\t' then ['\\', 't']
  else if c.toNat < 0x20 then
    ['\\', 'u', '0', '0', Nat.digitChar (c.toNat / 16), Nat.digitChar (c.toNat % 16)]
  else [c]

def stringChars (s : String) : List Char := '"' :: (s.toList.flatMap escapedChar ++ ['"'])

mutual

def chars : Json → List Char
  | .null => ['n', 'u', 'l', 'l']
  | .bool true => ['t', 'r', 'u', 'e']
  | .bool false => ['f', 'a', 'l', 's', 'e']
  | .int n => Text.intChars n
  | .float x => (floatText x).toList
  | .str s => stringChars s
  | .arr items => '[' :: (itemChars items ++ [']'])
  | .obj members => '{' :: (memberChars members ++ ['}'])

def itemChars : List Json → List Char
  | [] => []
  | [v] => v.chars
  | v :: w :: rest => v.chars ++ ',' :: itemChars (w :: rest)

def memberChars : List (String × Json) → List Char
  | [] => []
  | [(k, v)] => stringChars k ++ ':' :: v.chars
  | (k, v) :: m :: rest => stringChars k ++ ':' :: (v.chars ++ ',' :: memberChars (m :: rest))

end

def text (v : Json) : String := String.ofList v.chars

end CqlClient.Json
