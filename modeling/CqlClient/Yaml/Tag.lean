import CqlClient.Text.Digits
import CqlClient.Yaml.Cursor

/-!
# YAML tags and directives

A tag says of what kind a node is. It is written in full, or as a suffix behind a handle, which a
directive at the start of a document may declare. In a tag an octet may be written as a percent sign
with two hexadecimal digits; a tag is kept as its octets, each as the character of that number.
-/

namespace CqlClient.Yaml

def isNameChar (c : Char) : Bool := c.isAlphanum || c = '_' || c = '-'

/-! ## Characters of tags -/

/-- A character that stands for itself in a tag. Commas and square brackets do so only in a tag in
full. -/
def isTagChar (full : Bool) (c : Char) : Bool :=
  isNameChar c || ";/?:@&=+$.!~*'()".toList.contains c || (full && ",[]".toList.contains c)

/-- How many octets of a character are still to come after one more, if that one may stand here. -/
def octetsAfter? : Nat → Nat → Option Nat
  | 0, octet =>
    if octet < 0x80 then some 0
    else if octet < 0xc0 then none
    else if octet < 0xe0 then some 1
    else if octet < 0xf0 then some 2
    else if octet < 0xf8 then some 3
    else none
  | n + 1, octet => if 0x80 ≤ octet ∧ octet < 0xc0 then some n else none

/-- Reads the octets at the front of a text, and says how many characters they take; `pending`
octets complete a character that has begun. -/
def readOctets? (full : Bool) : Nat → List Char → Option (List Char × Nat)
  | pending, '%' :: high :: low :: rest => do
    let octet := 16 * (← Text.hexDigit? high) + (← Text.hexDigit? low)
    let (octets, n) ← readOctets? full (← octetsAfter? pending octet) rest
    some (Char.ofNat octet :: octets, n + 3)
  | 0, c :: rest =>
    if c = '%' then none
    else if isTagChar full c then
      (readOctets? full 0 rest).map fun (octets, n) => (c :: octets, n + 1)
    else some ([], 0)
  | 0, [] => some ([], 0)
  | _ + 1, _ => none

/-! ## Tags -/

/-- A tag as it is written; one in full has the empty handle. -/
structure Tag where
  handle : String
  suffix : String

/-- The length of the handle at the front of a text: an exclamation mark, alone or with another one
after a name, which may be empty. -/
def handleLength (cs : List Char) : Nat :=
  let name := cs.tail.takeWhile isNameChar
  if cs.head? ≠ some '!' then 0
  else if (cs.drop (name.length + 1)).head? = some '!' then name.length + 2
  else 1

namespace Tag

/-- The tag of the given handle and octets, which end before the first zero. -/
def ofOctets (handle : List Char) (octets : List Char) : Tag :=
  { handle := String.ofList handle
    suffix := String.ofList (octets.takeWhile (· ≠ '\x00')) }

/-- Reads the tag at the front of a text, which starts with an exclamation mark, and says how long
it is. An exclamation mark alone is a tag in full. -/
def read? (cs : List Char) : Option (Tag × Nat) :=
  if cs.tail.head? = some '<' then do
    let (octets, n) ← readOctets? true 0 (cs.drop 2)
    if n = 0 ∨ (cs.drop (n + 2)).head? ≠ some '>' then none
    else some (ofOctets [] octets, n + 3)
  else do
    let k := handleLength cs
    let (octets, n) ← readOctets? false 0 (cs.drop k)
    let tag := ofOctets (cs.take k) octets
    if 1 < k ∧ n = 0 then none
    else if k = 1 ∧ tag.suffix = "" then some ({ handle := "", suffix := "!" }, n + k)
    else some (tag, n + k)

def defaultHandles : List (String × String) := [("!", "!"), ("!!", "tag:yaml.org,2002:")]

def resolve? (handles : List (String × String)) (t : Tag) : Option String :=
  if t.handle = "" then some t.suffix
  else ((handles ++ defaultHandles).lookup t.handle).map (· ++ t.suffix)

end Tag

/-! ## Directives -/

inductive Directive where
  | version (major minor : Nat)
  | handle (name stem : String)

namespace Directive

/-- Reads the number at the front of a text, of up to nine digits, and says how many there are. -/
def readNumber? (cs : List Char) : Option (Nat × Nat) :=
  let digits := cs.takeWhile Char.isDigit
  if digits.length ≤ 9 then (Text.natOfDigits? digits).map (·, digits.length) else none

def readVersion? (cs : List Char) : Option (Directive × Nat) := do
  let (major, m) ← readNumber? cs
  let rest := cs.drop m
  if rest.head? ≠ some '.' then none
  else
    let (minor, n) ← readNumber? rest.tail
    some (.version major minor, m + 1 + n)

def readHandle? (cs : List Char) : Option (Directive × Nat) := do
  let k := handleLength cs
  let blanks := (cs.drop k).takeWhile isBlank
  let start := k + blanks.length
  let (octets, n) ← readOctets? true 0 (cs.drop start)
  if k = 0 ∨ blanks.isEmpty ∨ n = 0 ∨ !endsWord (cs.drop (start + n)) then none
  else
    let tag := Tag.ofOctets (cs.take k) octets
    some (.handle tag.handle tag.suffix, start + n)

def read? (cs : List Char) : Option (Directive × Nat) :=
  let name := cs.takeWhile isNameChar
  let blanks := (cs.drop name.length).takeWhile isBlank
  let start := name.length + blanks.length
  let value :=
    if String.ofList name = "YAML" then readVersion? (cs.drop start)
    else if String.ofList name = "TAG" then readHandle? (cs.drop start)
    else none
  if blanks.isEmpty then none else value.map fun (d, n) => (d, start + n)

end Directive

end CqlClient.Yaml
