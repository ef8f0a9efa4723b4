import CqlClient.Text.Digits

/-!
# UUIDs

A UUID is 32 hexadecimal digits, written in lower case in groups of 8, 4, 4, 4 and 12.
-/

namespace CqlClient

structure Uuid where
  /-- The hexadecimal digits, from the first written to the last. -/
  digits : List (Fin 16)
  length_digits : digits.length = 32
  deriving DecidableEq

namespace Uuid

def digitChar (d : Fin 16) : Char := Nat.digitChar d

def chars (u : Uuid) : List Char :=
  let cs := u.digits.map digitChar
  cs.take 8 ++ '-' :: ((cs.drop 8).take 4 ++ '-' :: ((cs.drop 12).take 4 ++
    '-' :: ((cs.drop 16).take 4 ++ '-' :: cs.drop 20)))

def digit? (c : Char) : Option (Fin 16) :=
  (Text.hexDigit? c).bind fun n => if h : n < 16 then some ⟨n, h⟩ else none

def ofDigits? (cs : List Char) : Option Uuid :=
  match cs.mapM digit? with
  | none => none
  | some ds => if h : ds.length = 32 then some ⟨ds, h⟩ else none

def unhyphenate? (cs : List Char) : Option (List Char) :=
  match cs.drop 8, cs.drop 13, cs.drop 18, cs.drop 23 with
  | '-' :: _, '-' :: _, '-' :: _, '-' :: rest =>
    some (cs.take 8 ++ (cs.drop 9).take 4 ++ (cs.drop 14).take 4 ++ (cs.drop 19).take 4 ++ rest)
  | _, _, _, _ => none

def ofHyphenated? (cs : List Char) : Option Uuid :=
  if cs.length = 36 then (unhyphenate? cs).bind ofDigits? else none

def urnPrefix : List Char := ['u', 'r', 'n', ':', 'u', 'u', 'i', 'd', ':']

def dropUrn? (cs : List Char) : Option (List Char) :=
  if (cs.take 9).map Char.toLower = urnPrefix then some (cs.drop 9) else none

/-- Reads 32 digits, or the hyphenated form alone, in braces or as a URN. -/
def ofChars? (cs : List Char) : Option Uuid :=
  if cs.length = 32 then ofDigits? cs
  else
    match cs with
    | '\x7b' :: rest => if rest.getLast? = some '\x7d' then ofHyphenated? rest.dropLast else none
    | cs =>
      match dropUrn? cs with
      | some rest => ofHyphenated? rest
      | none => ofHyphenated? cs

end Uuid

end CqlClient
