import CqlClient.Json.Token

/-!
# JSON documents

A JSON text as far as it can be read. Where the text breaks off or stops being JSON, the document
has a `broken` part, and nothing stands after it: a reader that walks the parts in order meets every
well-formed part before the fault. `Json.parse?` accepts the documents without a fault.
-/

namespace CqlClient.Json

/-- A JSON text, read up to its first fault. -/
inductive Document where
  | null
  | bool (b : Bool)
  | number (n : NumberText)
  /-- A string; `none` if it has an unpaired surrogate. -/
  | str (s : Option String)
  | arr (items : List Document)
  /-- An object; a key is a string, or broken. -/
  | obj (members : List (Document × Document))
  | broken

namespace Document

mutual

def read : Nat → List Token → Document × List Token
  | _, .null :: rest => (.null, rest)
  | _, .bool b :: rest => (.bool b, rest)
  | _, .number n :: rest => (.number n, rest)
  | _, .str s :: rest => (.str s, rest)
  | _, .openBracket :: .closeBracket :: rest => (.arr [], rest)
  | fuel + 1, .openBracket :: rest =>
    let (items, rest) := readItems fuel rest
    (.arr items, rest)
  | _, .openBrace :: .closeBrace :: rest => (.obj [], rest)
  | fuel + 1, .openBrace :: rest =>
    let (members, rest) := readMembers fuel rest
    (.obj members, rest)
  | _, _ => (.broken, [.bad])

def readItems : Nat → List Token → List Document × List Token
  | 0, _ => ([.broken], [.bad])
  | fuel + 1, ts =>
    let (v, rest) := read fuel ts
    match rest with
    | .closeBracket :: rest => ([v], rest)
    | .comma :: rest =>
      let (items, rest) := readItems fuel rest
      (v :: items, rest)
    | _ => ([v, .broken], [.bad])

def readMembers : Nat → List Token → List (Document × Document) × List Token
  | fuel + 1, .str key :: .colon :: rest =>
    let (v, rest) := read fuel rest
    match rest with
    | .closeBrace :: rest => ([(.str key, v)], rest)
    | .comma :: rest =>
      let (members, rest) := readMembers fuel rest
      ((.str key, v) :: members, rest)
    | _ => ([(.str key, v), (.broken, .broken)], [.bad])
  | _, .str key :: _ => ([(.str key, .broken)], [.bad])
  | _, _ => ([(.broken, .broken)], [.bad])

end

/-- The document of a text, and whether the text ends with it. Each level of nesting takes two units
of fuel and at least one token. -/
def ofText (s : String) : Document × Bool :=
  let ts := tokens s.toList
  let (doc, rest) := read (2 * ts.length) ts
  (doc, rest.isEmpty)

mutual

def isWhole : Document → Bool
  | .arr items => itemsWhole items
  | .obj members => membersWhole members
  | .broken => false
  | _ => true

def itemsWhole : List Document → Bool
  | [] => true
  | v :: rest => v.isWhole && itemsWhole rest

def membersWhole : List (Document × Document) → Bool
  | [] => true
  | (k, v) :: rest => k.isWhole && v.isWhole && membersWhole rest

end

mutual

def value? : Document → Option Json
  | .null => some .null
  | .bool b => some (.bool b)
  | .number n => n.value?
  | .str s => s.map .str
  | .arr items => (itemValues? items).map .arr
  | .obj members => (memberValues? members).map ofMembers
  | .broken => none

def itemValues? : List Document → Option (List Json)
  | [] => some []
  | v :: rest =>
    match v.value?, itemValues? rest with
    | some v, some rest => some (v :: rest)
    | _, _ => none

def memberValues? : List (Document × Document) → Option Members
  | [] => some []
  | (k, v) :: rest =>
    match k, v.value?, memberValues? rest with
    | .str (some k), some v, some rest => some ((k, v) :: rest)
    | _, _, _ => none

end

end Document

def parse? (s : String) : Option Json :=
  match Document.ofText s with
  | (doc, true) => doc.value?
  | (_, false) => none

end CqlClient.Json
